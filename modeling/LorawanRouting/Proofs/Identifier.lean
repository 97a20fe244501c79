import LorawanRouting.Identifier.Basic
import Mathlib.Data.List.Basic

/-!
Identifiers and their texts. Reading the upper-case digits of some bytes gives the bytes back, so
an identifier is found again in its text and no two identifiers of a kind share one.
-/

namespace LorawanRouting.Hex

def upperByte (n : Nat) : UInt8 := UInt8.ofNat (if n < 10 then n + 48 else n + 55)

theorem utf8EncodeChar_upperDigit {n : Nat} (h : n < 16) :
    String.utf8EncodeChar (upperDigit n) = [upperByte n] := by
  revert n
  decide

theorem digitValue_upperByte {n : Nat} (h : n < 16) : digitValue (upperByte n) = some n := by
  revert n
  decide

theorem utf8_upper (bytes : List UInt8) :
    utf8 (upper bytes) =
      bytes.flatMap fun b => [upperByte (b.toNat / 16), upperByte (b.toNat % 16)] := by
  simp only [utf8, upper, digits, String.toList_ofList]
  induction bytes with
  | nil => rfl
  | cons b bs ih =>
    have hb := b.toNat_lt
    simp only [List.flatMap_cons, List.flatMap_append, ih]
    simp [utf8EncodeChar_upperDigit (show b.toNat / 16 < 16 by omega),
      utf8EncodeChar_upperDigit (show b.toNat % 16 < 16 by omega)]

theorem readPairs_upperBytes (position : Nat) (bytes : List UInt8) :
    readPairs position
      (bytes.flatMap fun b => [upperByte (b.toNat / 16), upperByte (b.toNat % 16)]) =
      .ok bytes := by
  induction bytes generalizing position with
  | nil => rfl
  | cons b bs ih =>
    have hb := b.toNat_lt
    have hbyte : 16 * (b.toNat / 16) + b.toNat % 16 = b.toNat := by omega
    simp only [List.flatMap_cons, List.cons_append, List.nil_append, readPairs,
      digitValue_upperByte (show b.toNat / 16 < 16 by omega),
      digitValue_upperByte (show b.toNat % 16 < 16 by omega), ih, hbyte]
    simp

theorem read_upper (bytes : List UInt8) : read (upper bytes) = .ok bytes := by
  have hlen : (utf8 (upper bytes)).length = 2 * bytes.length := by
    rw [utf8_upper]
    simp [List.length_flatMap, Nat.mul_comm]
  rw [read, hlen, if_neg (by omega), utf8_upper]
  exact readPairs_upperBytes 0 bytes

end LorawanRouting.Hex

namespace LorawanRouting.Identifier

variable {kind : IdKind}

theorem ofText?_text (x : Identifier kind) : ofText? kind x.text = some x := by
  simp [ofText?, ofText, text, Hex.read_upper, x.length_bytes, Except.toOption]

theorem text_injective : Function.Injective (text : Identifier kind → String) := by
  intro x y h
  have hx := ofText?_text x
  rw [h, ofText?_text] at hx
  exact (Option.some.inj hx).symm

theorem length_text (x : Identifier kind) : x.text.toList.length = 2 * kind.size := by
  rw [text, Hex.upper, String.toList_ofList, Hex.length_digits, x.length_bytes]

theorem text_ne_empty (x : Identifier kind) : x.text ≠ "" := by
  intro h
  have hlen := length_text x
  rw [h] at hlen
  cases kind <;> simp [IdKind.size] at hlen

theorem isZero_iff (x : Identifier kind) : x.isZero = true ↔ x = zero kind := by
  constructor
  · intro h
    have hzero : ∀ b ∈ x.bytes, b = 0 := by simpa [isZero] using h
    apply ext
    rw [List.eq_replicate_of_mem hzero, x.length_bytes]
    rfl
  · rintro rfl
    simp [isZero, zero]

end LorawanRouting.Identifier
