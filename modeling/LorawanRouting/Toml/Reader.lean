import LorawanRouting.Text.Reader
import LorawanRouting.Time.Rfc3339
import LorawanRouting.Toml.Define

/-!
The grammar of TOML 1.0. A text is a list of lines: blank, a header, or a key with its value.
Strings come in four forms, integers in four bases and within 64 bits, and arrays and inline
tables nest to a fixed depth. Whatever the grammar does not allow is left unread, and a text that
is not read to its end is refused.
-/

namespace LorawanRouting.Toml

open Reader

def isSpace (c : Char) : Bool := c = ' ' || c = '\t'

def skipSpace (s : List Char) : List Char := s.dropWhile isSpace

def isPlain (c : Char) : Bool := c = '\t' || (32 ≤ c.toNat && c.toNat ≠ 127)

def newline : Reader Unit
  | '\n' :: s => some ((), s)
  | '\r' :: '\n' :: s => some ((), s)
  | _ => none

def comment : Reader Unit
  | '#' :: s => some ((), s.dropWhile isPlain)
  | _ => none

def lineEnd : Reader Unit := fun s =>
  let (_, s) := optional comment (skipSpace s)
  if s = [] then some ((), []) else newline s

def hexValue? (c : Char) : Option Nat :=
  if '0' ≤ c ∧ c ≤ '9' then some (c.toNat - 48)
  else if 'a' ≤ c ∧ c ≤ 'f' then some (c.toNat - 87)
  else if 'A' ≤ c ∧ c ≤ 'F' then some (c.toNat - 55)
  else none

def isHexDigit (c : Char) : Bool := (hexValue? c).isSome

def scalar? (ds : List Char) : Option Char := do
  let n := ds.foldl (fun n c => 16 * n + (hexValue? c).getD 0) 0
  if n.isValidChar then some (Char.ofNat n) else none

def escaped : Reader Char
  | '\\' :: 'b' :: s => some ('\x08', s)
  | '\\' :: 't' :: s => some ('\t', s)
  | '\\' :: 'n' :: s => some ('\n', s)
  | '\\' :: 'f' :: s => some ('\x0c', s)
  | '\\' :: 'r' :: s => some ('\r', s)
  | '\\' :: '"' :: s => some ('"', s)
  | '\\' :: '\\' :: s => some ('\\', s)
  | '\\' :: 'u' :: s => do
    let (ds, s) ← exactly isHexDigit 4 s
    return (← scalar? ds, s)
  | '\\' :: 'U' :: s => do
    let (ds, s) ← exactly isHexDigit 8 s
    return (← scalar? ds, s)
  | _ => none

def basicChar : Reader Char
  | '"' :: _ => none
  | '\\' :: s => escaped ('\\' :: s)
  | c :: s => if isPlain c then some (c, s) else none
  | [] => none

def basicString : Reader (List Char) := fun s => do
  let (_, s) ← char '"' s
  let (cs, s) := many basicChar s
  let (_, s) ← char '"' s
  return (cs, s)

def literalString : Reader (List Char) := fun s => do
  let (_, s) ← char '\'' s
  let cs := s.takeWhile fun c => c ≠ '\'' && isPlain c
  let (_, s) ← char '\'' (s.drop cs.length)
  return (cs, s)

/-- One or two marks that do not close a text opened by three. -/
def innerMarks (mark : Char) : Reader (List Char) := fun s =>
  let marks := s.takeWhile (· = mark)
  if marks ≠ [] ∧ marks.length < 3 then some (marks, s.drop marks.length) else none

/-- Three closing marks, with up to two more before them that belong to the text. -/
def closingMarks (mark : Char) : Reader (List Char) := fun s =>
  let marks := s.takeWhile (· = mark)
  let kept := min (marks.length - 3) 2
  if 3 ≤ marks.length then some (marks.take kept, s.drop (kept + 3)) else none

def joinedLines : Reader (List Char)
  | '\\' :: s => do
    let (_, s) ← newline (skipSpace s)
    let (_, s) := many (fun s => match newline s with
      | some r => some r
      | none => (run isSpace s).map fun (_, r) => ((), r)) s
    return ([], s)
  | _ => none

def lineBreak : Reader (List Char) := fun s => (newline s).map fun (_, r) => (['\n'], r)

def basicLinesPiece : Reader (List Char)
  | '"' :: s => innerMarks '"' ('"' :: s)
  | '\\' :: s =>
    match joinedLines ('\\' :: s) with
    | some r => some r
    | none => (escaped ('\\' :: s)).map fun (c, r) => ([c], r)
  | c :: s => if isPlain c then some ([c], s) else lineBreak (c :: s)
  | [] => none

def literalLinesPiece : Reader (List Char)
  | '\'' :: s => innerMarks '\'' ('\'' :: s)
  | c :: s => if isPlain c then some ([c], s) else lineBreak (c :: s)
  | [] => none

/-- A text of several lines between threefold marks; a line break right after the first is dropped. -/
def linesString (mark : Char) (piece : Reader (List Char)) : Reader (List Char) := fun s => do
  let (_, s) ← word [mark, mark, mark] s
  let (_, s) := optional newline s
  let (pieces, s) := many piece s
  let (last, s) ← closingMarks mark s
  return (pieces.flatten ++ last, s)

def string : Reader (List Char) := fun s =>
  match s with
  | '"' :: '"' :: '"' :: _ => linesString '"' basicLinesPiece s
  | '"' :: _ => basicString s
  | '\'' :: '\'' :: '\'' :: _ => linesString '\'' literalLinesPiece s
  | _ => literalString s

def isBare (c : Char) : Bool := c.isAlphanum || c = '-' || c = '_'

def simpleKey : Reader String := fun s =>
  let read := match s with
    | '"' :: _ => basicString s
    | '\'' :: _ => literalString s
    | _ => run isBare s
  read.map fun (cs, r) => (String.ofList cs, r)

def spacedKey : Reader String := fun s => do
  let (k, s) ← simpleKey (skipSpace s)
  return (k, skipSpace s)

/-- Keys and brackets beyond this measure are refused. -/
def depthLimit : Nat := 80

def key : Reader (List String × String) := fun s => do
  let (first, s) ← spacedKey s
  let (others, s) := many (fun s => do
    let (_, s) ← char '.' s
    spacedKey s) s
  let parts := first :: others
  if parts.length < depthLimit then some ((parts.dropLast, parts.getLast (by simp [parts])), s)
  else none

def grouped (p : Char → Bool) : Reader (List Char) := fun s =>
  match s with
  | c :: s =>
    if p c then
      let (ds, s) := many (fun s => match s with
        | '_' :: d :: r => if p d then some (d, r) else none
        | d :: r => if p d then some (d, r) else none
        | [] => none) s
      some (c :: ds, s)
    else none
  | [] => none

def sign : Reader Char := oneOf ['+', '-']

def unsignedDecimal : Reader (List Char)
  | '0' :: s => some (['0'], s)
  | s => grouped Char.isDigit s

def integer64? (n : Int) : Option Value :=
  if -9223372036854775808 ≤ n ∧ n < 9223372036854775808 then some (.integer n) else none

def inBase (base : Nat) (p : Char → Bool) : Reader Value := fun s => do
  let (ds, s) ← grouped p s
  let n : Nat := ds.foldl (fun n c => base * n + (hexValue? c).getD 0) 0
  return (← integer64? n, s)

def integer : Reader Value := fun s =>
  match s with
  | '0' :: 'x' :: s => inBase 16 isHexDigit s
  | '0' :: 'o' :: s => inBase 8 (fun c => '0' ≤ c ∧ c ≤ '7') s
  | '0' :: 'b' :: s => inBase 2 (fun c => c = '0' ∨ c = '1') s
  | _ => do
    let (sgn, s) := optional sign s
    let (ds, s) ← unsignedDecimal s
    let n : Int := Nat.ofDigitChars 10 ds 0
    return (← integer64? (if sgn = some '-' then -n else n), s)

/-- Whether a decimal of these digits, scaled by a power of ten, is beyond every finite double. -/
def overflows (digits : List Char) (scale : Int) : Bool :=
  let n := Nat.ofDigitChars 10 digits 0
  let size := (Nat.toDigits 10 n).length + scale
  if n = 0 ∨ size < 300 then false
  else if size > 400 then true
  else
    let bound := Nat.pow 2 1024 - Nat.pow 2 970
    if 0 ≤ scale then bound ≤ n * Nat.pow 10 scale.toNat else bound * Nat.pow 10 scale.natAbs ≤ n

def exponent : Reader Int := fun s => do
  let (_, s) ← oneOf ['e', 'E'] s
  let (sgn, s) := optional sign s
  let (ds, s) ← grouped Char.isDigit s
  let n : Int := Nat.ofDigitChars 10 ds 0
  return (if sgn = some '-' then -n else n, s)

def fraction : Reader (List Char) := fun s => do
  let (_, s) ← char '.' s
  grouped Char.isDigit s

/-- A float has a fraction, an exponent or both. Only positive ones are checked for their size. -/
def decimalFloat : Reader Value := fun s => do
  let (sgn, s) := optional sign s
  let (whole, s) ← unsignedDecimal s
  let (frac, s) := optional fraction s
  let (exp, s) := optional exponent s
  if frac.isNone ∧ exp.isNone then none
  else
    let frac := frac.getD []
    if sgn ≠ some '-' ∧ overflows (whole ++ frac) (exp.getD 0 - frac.length) then none
    else some (.float, s)

def specialFloat : Reader Value := fun s =>
  let (_, s) := optional sign s
  match word ['i', 'n', 'f'] s with
  | some (_, r) => some (.float, r)
  | none => (word ['n', 'a', 'n'] s).map fun (_, r) => (.float, r)

def timeOfDay : Reader Unit := fun s => do
  let (_, s) ← Rfc3339.readTime s
  let (_, s) ← Rfc3339.readFraction s
  return ((), s)

def moment : Reader Value := fun s =>
  match Rfc3339.readDate s with
  | none => (timeOfDay s).map fun (_, r) => (.moment, r)
  | some (_, s) =>
    let (_, s) := optional (fun s => do
      let (_, s) ← oneOf ['T', 't', ' '] s
      let (_, s) ← timeOfDay s
      let (_, s) := optional (Rfc3339.readOffset ['+', '-']) s
      return ((), s)) s
    some (.moment, s)

def firstOf (readers : List (Reader Value)) : Reader Value := fun s =>
  readers.findSome? fun r => r s

def skipBlanks (s : List Char) : List Char :=
  (many (fun s => match s with
    | '#' :: _ => do
      let (_, s) ← comment s
      newline s
    | c :: rest => if isSpace c then some ((), rest) else newline s
    | [] => none) s).2

def arrayItems (value : Reader Value) : Reader (List Value) := fun s =>
  match skipBlanks s with
  | ']' :: s => some ([], s)
  | s => do
    let (v, s) ← value s
    let (vs, s) := many (fun s => do
      let (_, s) ← char ',' (skipBlanks s)
      value (skipBlanks s)) s
    let (_, s) := optional (char ',') (skipBlanks s)
    let (_, s) ← char ']' (skipBlanks s)
    return (v :: vs, s)

def pair (value : Reader Value) : Reader Pair := fun s => do
  let ((path, k), s) ← key s
  let (_, s) ← char '=' s
  let (v, s) ← value (skipSpace s)
  return (⟨path, k, v⟩, s)

def inlinePairs (value : Reader Value) : Reader (List Pair) := fun s =>
  match skipSpace s with
  | '\x7d' :: s => some ([], s)
  | s => do
    let (p, s) ← pair value s
    let (ps, s) := many (fun s => do
      let (_, s) ← char ',' (skipSpace s)
      pair value s) s
    let (_, s) ← char '\x7d' (skipSpace s)
    return (p :: ps, s)

def booleanValue : Reader Value := fun s =>
  match word ['t', 'r', 'u', 'e'] s with
  | some (_, r) => some (.boolean true, r)
  | none => (word ['f', 'a', 'l', 's', 'e'] s).map fun (_, r) => (.boolean false, r)

def scalar : Reader Value := fun s =>
  match s with
  | '"' :: _ | '\'' :: _ => (string s).map fun (cs, r) => (.text (String.ofList cs), r)
  | _ => firstOf [moment, decimalFloat, specialFloat, integer, booleanValue] s

/-- A value with at most `depth` brackets inside each other. -/
def value : Nat → Reader Value
  | 0 => fun s =>
    match s with
    | '[' :: _ | '\x7b' :: _ => none
    | _ => scalar s
  | depth + 1 => fun s =>
    match s with
    | '[' :: s => (arrayItems (value depth) s).map fun (vs, r) => (.array vs, r)
    | '\x7b' :: s => do
      let (pairs, s) ← inlinePairs (value depth) s
      return (← Value.ofPairs? pairs, s)
    | _ => scalar s

inductive Line
  | blank
  | opens (s : Section)
  | sets (p : Pair)

def header : Reader Section := fun s =>
  match s with
  | '[' :: '[' :: s => do
    let ((path, k), s) ← key s
    let (_, s) ← word [']', ']'] s
    return (.member path k [], s)
  | _ => do
    let (_, s) ← char '[' s
    let ((path, k), s) ← key s
    let (_, s) ← char ']' s
    return (.table path k [], s)

def line : Reader Line := fun s =>
  match skipSpace s with
  | [] => none
  | '[' :: s => do
    let (h, s) ← header ('[' :: s)
    let (_, s) ← lineEnd s
    return (.opens h, s)
  | c :: s =>
    match lineEnd (c :: s) with
    | some (_, s) => some (.blank, s)
    | none => do
      let (p, s) ← pair (value (depthLimit - 1)) (c :: s)
      let (_, s) ← lineEnd s
      return (.sets p, s)

/-- Lines put together under their headers, the latest section first. -/
def sections (lines : List Line) : List Section :=
  let add (done : List Section) : Line → List Section
    | .blank => done
    | .opens s => s :: done
    | .sets p =>
      match done with
      | s :: rest => s.add p :: rest
      | [] => [(Section.root []).add p]
  (lines.foldl add [.root []]).reverse

def skipMark : List Char → List Char
  | '\ufeff' :: s => s
  | s => s

/-- The root table of a text; a byte order mark at its beginning is passed over. -/
def read? (text : String) : Option Entries :=
  let (lines, rest) := many line (skipMark text.toList)
  if skipSpace rest = [] then Entries.ofSections (sections lines) else none

end LorawanRouting.Toml
