/-!
Unsigned decimal numerals. A numeral is one or more ASCII digits, leading zeros allowed, with an
optional plus sign; reading is bounded, so a value that does not fit is refused like a bad digit.
-/

namespace LorawanRouting.Numeral

def write (n : Nat) : List Char := Nat.toDigits 10 n

def digits? (cs : List Char) : Option Nat :=
  if cs ≠ [] ∧ cs.all Char.isDigit then some (Nat.ofDigitChars 10 cs 0) else none

def unsigned? : List Char → Option Nat
  | '+' :: cs => digits? cs
  | cs => digits? cs

def below? (bound : Nat) (s : String) : Option Nat :=
  (unsigned? s.toList).filter (· < bound)

def uint32? (s : String) : Option UInt32 := (below? UInt32.size s).map UInt32.ofNat

def uint64? (s : String) : Option UInt64 := (below? UInt64.size s).map UInt64.ofNat

end LorawanRouting.Numeral
