/-!
Readers of text. A reader looks at the characters still to come and either refuses or hands back
what it read with the rest. `many` repeats a reader for as long as it takes something from the
text, so every composed reader comes to an end.
-/

namespace LorawanRouting

abbrev Reader (α : Type) := List Char → Option (α × List Char)

namespace Reader

variable {α : Type}

def char (c : Char) : Reader Unit
  | d :: rest => if d = c then some ((), rest) else none
  | [] => none

def word (w : List Char) : Reader Unit := fun s =>
  if w.isPrefixOf s then some ((), s.drop w.length) else none

def oneOf (cs : List Char) : Reader Char
  | d :: rest => if cs.contains d then some (d, rest) else none
  | [] => none

def exactly (p : Char → Bool) (n : Nat) : Reader (List Char) := fun s =>
  let taken := s.take n
  if taken.length = n ∧ taken.all p then some (taken, s.drop n) else none

def run (p : Char → Bool) : Reader (List Char) := fun s =>
  match s.takeWhile p with
  | [] => none
  | taken => some (taken, s.dropWhile p)

def optional (r : Reader α) (s : List Char) : Option α × List Char :=
  match r s with
  | some (a, rest) => (some a, rest)
  | none => (none, s)

def many (r : Reader α) (s : List Char) : List α × List Char :=
  match r s with
  | none => ([], s)
  | some (a, rest) =>
    if rest.length < s.length then
      let (as, last) := many r rest
      (a :: as, last)
    else ([], s)
termination_by s.length

def complete (r : Reader α) (s : List Char) : Option α :=
  match r s with
  | some (a, []) => some a
  | _ => none

end Reader

end LorawanRouting
