import LorawanRouting.Text.Reader

/-!
JSON texts as far as the stored fields of a device need them. The syntax is read in full, at any
depth; numbers and strings keep their written form, and a string is decoded only where its meaning
matters, which is where it names a field.
-/

namespace LorawanRouting

inductive Json
  | null
  | boolean (b : Bool)
  | number (literal : List Char)
  | string (written : List Char)
  | array (items : List Json)
  | object (members : List (List Char × Json))

namespace Json

def isSpace (c : Char) : Bool := c = ' ' || c = '\t' || c = '\n' || c = '\r'

def skipSpace (s : List Char) : List Char := s.dropWhile isSpace

def hexValue? (c : Char) : Option Nat :=
  if '0' ≤ c ∧ c ≤ '9' then some (c.toNat - 48)
  else if 'a' ≤ c ∧ c ≤ 'f' then some (c.toNat - 87)
  else if 'A' ≤ c ∧ c ≤ 'F' then some (c.toNat - 55)
  else none

def hexValue4? (a b c d : Char) : Option Nat := do
  return 4096 * (← hexValue? a) + 256 * (← hexValue? b) + 16 * (← hexValue? c) + (← hexValue? d)

def shortEscape? : Char → Option Char
  | '"' => some '"'
  | '\\' => some '\\'
  | '/' => some '/'
  | 'b' => some '\x08'
  | 'f' => some '\x0c'
  | 'n' => some '\n'
  | 'r' => some '\r'
  | 't' => some '\t'
  | _ => none

def written : List Char → Option (List Char × List Char)
  | '"' :: rest => some ([], rest)
  | '\\' :: 'u' :: a :: b :: c :: d :: rest =>
    if (hexValue4? a b c d).isSome then
      (written rest).map fun (w, last) => ('\\' :: 'u' :: a :: b :: c :: d :: w, last)
    else none
  | '\\' :: e :: rest =>
    if (shortEscape? e).isSome then (written rest).map fun (w, last) => ('\\' :: e :: w, last)
    else none
  | c :: rest =>
    if c = '\\' ∨ c.toNat < 32 then none
    else (written rest).map fun (w, last) => (c :: w, last)
  | [] => none

def isHighSurrogate (n : Nat) : Bool := 0xD800 ≤ n && n < 0xDC00

def isLowSurrogate (n : Nat) : Bool := 0xDC00 ≤ n && n < 0xE000

/-- The characters a written form stands for. A surrogate must be followed by its other half. -/
def decode? : List Char → Option (List Char)
  | [] => some []
  | '\\' :: 'u' :: a :: b :: c :: d :: '\\' :: 'u' :: e :: f :: g :: h :: rest => do
    let n ← hexValue4? a b c d
    let m ← hexValue4? e f g h
    if isHighSurrogate n ∧ isLowSurrogate m then
      return Char.ofNat (0x10000 + 1024 * (n - 0xD800) + (m - 0xDC00)) :: (← decode? rest)
    else if isHighSurrogate n ∨ isLowSurrogate n then none
    else return Char.ofNat n :: (← decode? ('\\' :: 'u' :: e :: f :: g :: h :: rest))
  | '\\' :: 'u' :: a :: b :: c :: d :: rest => do
    let n ← hexValue4? a b c d
    if isHighSurrogate n ∨ isLowSurrogate n then none
    else return Char.ofNat n :: (← decode? rest)
  | '\\' :: e :: rest => do return (← shortEscape? e) :: (← decode? rest)
  | c :: rest => do return c :: (← decode? rest)

def fraction (s : List Char) : Option (List Char × List Char) :=
  match s with
  | '.' :: rest => (Reader.run Char.isDigit rest).map fun (ds, last) => ('.' :: ds, last)
  | _ => some ([], s)

def exponent (s : List Char) : Option (List Char × List Char) :=
  match Reader.oneOf ['e', 'E'] s with
  | none => some ([], s)
  | some (e, rest) =>
    let (sign, rest) := Reader.optional (Reader.oneOf ['+', '-']) rest
    (Reader.run Char.isDigit rest).map fun (ds, last) => (e :: (sign.toList ++ ds), last)

def unsignedNumber (s : List Char) : Option (List Char × List Char) := do
  let (whole, s) ← match s with
    | '0' :: rest => some (['0'], rest)
    | _ => Reader.run Char.isDigit s
  let (frac, s) ← fraction s
  let (exp, s) ← exponent s
  return (whole ++ frac ++ exp, s)

def readNumber : List Char → Option (List Char × List Char)
  | '-' :: rest => (unsignedNumber rest).map fun (n, last) => ('-' :: n, last)
  | s => unsignedNumber s

def listed {α : Type} (item : Reader α) (close : Char) : Reader (List α) := fun s =>
  match skipSpace s with
  | [] => none
  | c :: rest =>
    if c = close then some ([], rest)
    else do
      let (a, s) ← item (c :: rest)
      let (as, s) := Reader.many (fun s => do
        let (_, s) ← Reader.char ',' (skipSpace s)
        item (skipSpace s)) s
      let (_, s) ← Reader.char close (skipSpace s)
      return (a :: as, s)

def member (value : Reader Json) : Reader (List Char × Json) := fun s => do
  let (_, s) ← Reader.char '"' s
  let (name, s) ← written s
  let (_, s) ← Reader.char ':' (skipSpace s)
  let (v, s) ← value (skipSpace s)
  return ((name, v), s)

def value : Nat → Reader Json
  | 0 => fun _ => none
  | depth + 1 => fun s =>
    match s with
    | 'n' :: _ => (Reader.word ['n', 'u', 'l', 'l'] s).map fun (_, r) => (null, r)
    | 't' :: _ => (Reader.word ['t', 'r', 'u', 'e'] s).map fun (_, r) => (boolean true, r)
    | 'f' :: _ => (Reader.word ['f', 'a', 'l', 's', 'e'] s).map fun (_, r) => (boolean false, r)
    | '"' :: rest => (written rest).map fun (w, r) => (string w, r)
    | '[' :: rest => (listed (value depth) ']' rest).map fun (vs, r) => (array vs, r)
    | '\x7b' :: rest =>
      (listed (member (value depth)) '\x7d' rest).map fun (ms, r) => (object ms, r)
    | _ => (readNumber s).map fun (n, r) => (number n, r)

/-- A whole text; no value is nested deeper than its text is long. -/
def read? (s : String) : Option Json := do
  let cs := skipSpace s.toList
  let (v, rest) ← value (cs.length + 1) cs
  if skipSpace rest = [] then some v else none

def natural? : Json → Option Nat
  | number literal => if literal.all Char.isDigit then some (Nat.ofDigitChars 10 literal 0) else none
  | _ => none

def boolean? : Json → Option Bool
  | boolean b => some b
  | _ => none

/--
The values of the named fields, in the order of the names. An object gives each of them exactly
once, among others perhaps; an array gives exactly these.
-/
def record? (names : List String) : Json → Option (List Json)
  | array items => if items.length = names.length then some items else none
  | object members => do
    let keyed ← members.mapM fun (w, v) => (decode? w).map fun name => (String.ofList name, v)
    names.mapM fun name =>
      match keyed.filter (·.1 = name) with
      | [(_, v)] => some v
      | _ => none
  | _ => none

end Json

end LorawanRouting
