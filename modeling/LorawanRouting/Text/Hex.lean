/-!
Bytes written as hexadecimal text, two digits for each byte. Reading accepts both cases of the
digits and looks at the UTF-8 bytes of the text; a refused text has exactly one cause, an odd
number of bytes or else the first byte that is no digit.
-/

namespace LorawanRouting.Hex

inductive Fault
  | oddLength
  | badByte (byte : UInt8) (position : Nat)
  deriving DecidableEq, Repr

def upperDigit (n : Nat) : Char := if n < 10 then Char.ofNat (n + 48) else Char.ofNat (n + 55)

def lowerDigit (n : Nat) : Char := if n < 10 then Char.ofNat (n + 48) else Char.ofNat (n + 87)

def digits (digit : Nat → Char) (bytes : List UInt8) : List Char :=
  bytes.flatMap fun b => [digit (b.toNat / 16), digit (b.toNat % 16)]

def upper (bytes : List UInt8) : String := String.ofList (digits upperDigit bytes)

def lower (bytes : List UInt8) : String := String.ofList (digits lowerDigit bytes)

theorem length_digits (digit : Nat → Char) (bytes : List UInt8) :
    (digits digit bytes).length = 2 * bytes.length := by
  induction bytes with
  | nil => rfl
  | cons b bs ih =>
    simp only [digits, List.flatMap_cons, List.length_append, List.length_cons,
      List.length_nil] at ih ⊢
    omega

def digitValue (b : UInt8) : Option Nat :=
  let n := b.toNat
  if 48 ≤ n ∧ n ≤ 57 then some (n - 48)
  else if 65 ≤ n ∧ n ≤ 70 then some (n - 55)
  else if 97 ≤ n ∧ n ≤ 102 then some (n - 87)
  else none

def utf8 (s : String) : List UInt8 := s.toList.flatMap String.utf8EncodeChar

/-- Reads pairs of digits; `position` counts the bytes already passed. -/
def readPairs (position : Nat) : List UInt8 → Except Fault (List UInt8)
  | [] => .ok []
  | [_] => .error .oddLength
  | a :: b :: rest =>
    match digitValue a, digitValue b with
    | none, _ => .error (.badByte a position)
    | some _, none => .error (.badByte b (position + 1))
    | some x, some y =>
      match readPairs (position + 2) rest with
      | .ok bytes => .ok (UInt8.ofNat (16 * x + y) :: bytes)
      | .error e => .error e

def read (s : String) : Except Fault (List UInt8) :=
  let bytes := utf8 s
  if bytes.length % 2 = 1 then .error .oddLength else readPairs 0 bytes

end LorawanRouting.Hex
