import LorawanRouting.Identifier.AddressRange
import Mathlib.Algebra.Group.Nat.Defs
import Mathlib.Data.List.GetD
import Mathlib.Data.List.Induction

/-!
Address ranges bit by bit. The bits of an address are numbered from the most significant of its first
byte; a range contains the addresses that agree with its own in the first bits, as many as it is long.
-/

namespace LorawanRouting.AddressRange

def bit (a : DevAddr) (i : Nat) : Bool := (a.bytes.getD (i / 8) 0).toNat.testBit (7 - i % 8)

def value (bytes : List UInt8) : Nat := bytes.foldl (fun n b => 256 * n + b.toNat) 0

theorem value_concat (bytes : List UInt8) (b : UInt8) :
    value (bytes ++ [b]) = 2 ^ 8 * value bytes + b.toNat := by
  rw [value, List.foldl_append]
  rfl

theorem value_lt (bytes : List UInt8) : value bytes < 2 ^ (8 * bytes.length) := by
  induction bytes using List.reverseRecOn with
  | nil => decide
  | append_singleton bytes b ih =>
    have hb := b.toNat_lt
    rw [value_concat, List.length_append, List.length_singleton, Nat.mul_add, Nat.pow_add]
    omega

theorem testBit_value (bytes : List UInt8) {i : Nat} (h : i < 8 * bytes.length) :
    (value bytes).testBit (8 * bytes.length - 1 - i) =
      (bytes.getD (i / 8) 0).toNat.testBit (7 - i % 8) := by
  induction bytes using List.reverseRecOn with
  | nil => simp at h
  | append_singleton bytes b ih =>
    rw [List.length_append, List.length_singleton] at h ⊢
    rw [value_concat, Nat.testBit_two_pow_mul_add _ b.toNat_lt]
    by_cases hi : i < 8 * bytes.length
    · have hshift : 8 * (bytes.length + 1) - 1 - i - 8 = 8 * bytes.length - 1 - i := by omega
      rw [if_neg (by omega), hshift, ih hi, List.getD_append _ _ _ _ (by omega)]
    · have hlast : i / 8 = bytes.length := by omega
      have hplace : 8 * (bytes.length + 1) - 1 - i = 7 - i % 8 := by omega
      rw [if_pos (by omega), hplace, hlast]
      simp

theorem testBit_number (a : DevAddr) {i : Nat} (h : i < 32) :
    (number a).testBit (31 - i) = bit a i := by
  have hbits := testBit_value a.bytes (i := i) (by rw [a.length_bytes]; exact h)
  rw [a.length_bytes] at hbits
  exact hbits

theorem number_lt (a : DevAddr) : number a < 2 ^ 32 := by
  have hlt := value_lt a.bytes
  rw [a.length_bytes] at hlt
  exact hlt

theorem contains_iff (r : AddressRange) (a : DevAddr) :
    r.contains a = true ↔ ∀ i < r.length, bit r.address i = bit a i := by
  have hlength := r.length_le
  rw [contains, decide_eq_true_iff]
  constructor
  · intro heq i hi
    have hplace : 32 - r.length + (r.length - 1 - i) = 31 - i := by omega
    have hbit := congrArg (·.testBit (r.length - 1 - i)) heq
    simp only [Nat.testBit_shiftRight, hplace] at hbit
    rwa [testBit_number _ (by omega), testBit_number _ (by omega)] at hbit
  · intro hagree
    apply Nat.eq_of_testBit_eq
    intro j
    rw [Nat.testBit_shiftRight, Nat.testBit_shiftRight]
    by_cases hj : j < r.length
    · have hplace : 32 - r.length + j = 31 - (r.length - 1 - j) := by omega
      rw [hplace, testBit_number _ (by omega), testBit_number _ (by omega)]
      exact hagree _ (by omega)
    -- no address has bits beyond the first
    · have hbeyond : ∀ x : DevAddr, (number x).testBit (32 - r.length + j) = false := fun x =>
        Nat.testBit_lt_two_pow
          (Nat.lt_of_lt_of_le (number_lt x) (Nat.pow_le_pow_right (by decide) (by omega)))
      rw [hbeyond, hbeyond]

theorem contains_of {p a : DevAddr} {length : Nat} :
    (of p length).contains a = true ↔ ∀ i < min length 32, bit p i = bit a i :=
  contains_iff (of p length) a

theorem contains_of_le {p a : DevAddr} {short long : Nat} (h : short ≤ long)
    (hlong : (of p long).contains a = true) : (of p short).contains a = true := by
  rw [contains_of] at hlong ⊢
  exact fun i hi => hlong i (by omega)

def word (a : DevAddr) : BitVec 32 := BitVec.ofNat 32 (number a)

/-- A word of ones moved to the left. A shift by the width of the word or more overflows. -/
def onesAbove? (shift : Nat) : Option (BitVec 32) :=
  if shift < 32 then some (BitVec.allOnes 32 <<< shift) else none

/-- What `contains` tells, told by masked words; nothing is told if the shift overflows. The range
of length zero needs no mask. -/
def containsMasked? (r : AddressRange) (a : DevAddr) : Option Bool :=
  if r.length = 0 then some true
  else (onesAbove? (32 - r.length)).map fun mask => word a &&& mask = word r.address &&& mask

theorem getLsbD_word (a : DevAddr) {i : Nat} (h : i < 32) : (word a).getLsbD (31 - i) = bit a i := by
  rw [word, BitVec.getLsbD_ofNat, testBit_number a h, decide_eq_true (by omega), Bool.true_and]

theorem masked_eq_iff (x y : DevAddr) {length : Nat} (h : length ≤ 32) :
    word x &&& BitVec.allOnes 32 <<< (32 - length) =
        word y &&& BitVec.allOnes 32 <<< (32 - length) ↔
      ∀ i < length, bit x i = bit y i := by
  have hmasked : ∀ z : DevAddr, ∀ i < 32,
      (word z &&& BitVec.allOnes 32 <<< (32 - length)).getLsbD (31 - i) =
        (bit z i && decide (i < length)) := by
    intro z i hi
    simp only [BitVec.getLsbD_and, BitVec.getLsbD_shiftLeft, BitVec.getLsbD_allOnes,
      getLsbD_word z hi]
    by_cases hlt : i < length
    · simp [hlt]
      omega
    · simp [hlt]
      omega
  constructor
  · intro heq i hi
    have hbit := congrArg (·.getLsbD (31 - i)) heq
    simpa only [hmasked x i (by omega), hmasked y i (by omega), hi, decide_true, Bool.and_true]
      using hbit
  · intro hagree
    apply BitVec.eq_of_getLsbD_eq
    intro j hj
    have hplace : 31 - (31 - j) = j := by omega
    have hx := hmasked x (31 - j) (by omega)
    have hy := hmasked y (31 - j) (by omega)
    rw [hplace] at hx hy
    rw [hx, hy]
    by_cases hlt : 31 - j < length
    · rw [hagree _ hlt]
    · simp [hlt]

/-- No shift overflows, and the masked words tell whether a range contains an address. -/
theorem containsMasked?_eq (r : AddressRange) (a : DevAddr) :
    r.containsMasked? a = some (r.contains a) := by
  have hlength := r.length_le
  rw [containsMasked?]
  split
  case isTrue hzero =>
    have hall : r.contains a = true := (contains_iff r a).mpr (by omega)
    rw [hall]
  case isFalse hpos =>
    rw [onesAbove?, if_pos (by omega), Option.map_some, Option.some.injEq, Bool.eq_iff_iff,
      decide_eq_true_iff, masked_eq_iff a r.address hlength, contains_iff]
    exact forall₂_congr fun i _ => eq_comm

theorem frameAddress?_of_length {payload : List UInt8} (h : 5 ≤ payload.length) :
    ∃ a, frameAddress? payload = some a ∧ a.bytes = ((payload.drop 1).take 4).reverse := by
  match payload, h with
  | _ :: a :: b :: c :: d :: _, _ => exact ⟨⟨[d, c, b, a], rfl⟩, rfl, rfl⟩

theorem frameAddress?_eq_none {payload : List UInt8} :
    frameAddress? payload = none ↔ payload.length < 5 := by
  constructor
  · intro hnone
    by_contra hlong
    obtain ⟨a, ha, -⟩ := frameAddress?_of_length (Nat.not_lt.mp hlong)
    rw [ha] at hnone
    cases hnone
  · intro hshort
    match payload, hshort with
    | [], _ | [_], _ | [_, _], _ | [_, _, _], _ | [_, _, _, _], _ => rfl
    | _ :: _ :: _ :: _ :: _ :: _, hshort =>
      simp only [List.length_cons] at hshort
      omega

end LorawanRouting.AddressRange
