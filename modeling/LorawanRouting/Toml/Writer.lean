import LorawanRouting.Text.Hex

/-!
Strings as TOML text. Of the four forms the first that can hold the text without trouble is taken:
a basic string, a literal string, then their forms of several lines; a text that none of these can
show as it is goes into a basic form with escapes. A text with line breaks begins on a new line.
-/

namespace LorawanRouting.Toml

inductive StringForm
  | basic
  | literal
  | basicLines
  | literalLines
  deriving DecidableEq, Repr

def needsCode (c : Char) : Bool :=
  (c.toNat < 32 && c ≠ '\t' && c ≠ '\n') || c.toNat = 127

def longestRun (mark : Char) (cs : List Char) : Nat :=
  go 0 0 cs
where
  go (best now : Nat) : List Char → Nat
    | [] => max best now
    | c :: rest => if c = mark then go best (now + 1) rest else go (max best now) 0 rest

def stringForm (cs : List Char) : StringForm :=
  let codes := cs.any needsCode
  let escapes := cs.contains '\\'
  let lines := cs.contains '\n'
  let quotes := longestRun '"' cs
  let apostrophes := longestRun '\'' cs
  if !codes && !escapes && quotes = 0 && !lines then .basic
  else if !codes && apostrophes = 0 && !lines then .literal
  else if !codes && !escapes && quotes ≤ 2 then .basicLines
  else if !codes && apostrophes ≤ 2 then .literalLines
  else if lines then .basicLines
  else .basic

def writeCode (c : Char) : List Char :=
  let n := c.toNat
  ['\\', 'u', '0', '0', Hex.upperDigit (n / 16), Hex.upperDigit (n % 16)]

def writeEscaped (c : Char) : List Char :=
  if c = '\\' then ['\\', '\\']
  else if c = '\x08' then ['\\', 'b']
  else if c = '\t' then ['\\', 't']
  else if c = '\n' then ['\\', 'n']
  else if c = '\x0c' then ['\\', 'f']
  else if c = '\r' then ['\\', 'r']
  else if c = '"' then ['\\', '"']
  else if c.toNat < 32 || c.toNat = 127 then writeCode c
  else [c]

/-- In the form of several lines a break stands for itself, and so do quotes up to two in a row. -/
def writeLines (quotes : Nat) : List Char → List Char
  | [] => []
  | '\n' :: rest => '\n' :: writeLines 0 rest
  | '"' :: rest =>
    if quotes < 2 then '"' :: writeLines (quotes + 1) rest
    else '\\' :: '"' :: writeLines 0 rest
  | c :: rest => writeEscaped c ++ writeLines 0 rest

def writeStringChars (cs : List Char) : List Char :=
  let start := if cs.contains '\n' then ['\n'] else []
  match stringForm cs with
  | .basic => '"' :: cs.flatMap writeEscaped ++ ['"']
  | .literal => '\'' :: cs ++ ['\'']
  | .basicLines => ['"', '"', '"'] ++ start ++ writeLines 0 cs ++ ['"', '"', '"']
  | .literalLines => ['\'', '\'', '\''] ++ start ++ cs ++ ['\'', '\'', '\'']

def writeString (s : String) : String := String.ofList (writeStringChars s.toList)

def writeEntry (key value : String) : String := key ++ " = " ++ value ++ "\n"

def writeHeader (name : String) : String := "[" ++ name ++ "]\n"

end LorawanRouting.Toml
