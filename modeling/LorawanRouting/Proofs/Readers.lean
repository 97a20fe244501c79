import LorawanRouting.Text.Numeral
import LorawanRouting.Text.Reader
import Mathlib.Data.List.Basic

/-!
Readers on texts that were written piece by piece, and the decimal digits of a number.
-/

namespace LorawanRouting

namespace Numeral

theorem isDigit_toDigits (n : Nat) : ∀ d ∈ Nat.toDigits 10 n, d.isDigit = true := fun _ h =>
  Nat.isDigit_of_mem_toDigits (by omega) (by omega) h

theorem head_toDigits {n : Nat} (hn : 0 < n) : ∀ c ∈ (Nat.toDigits 10 n).head?, c ≠ '0' := by
  induction n using Nat.strongRecOn with
  | _ n ih =>
    by_cases hlt : n < 10
    · have hdigit : ∀ d < 10, 0 < d → Nat.digitChar d ≠ '0' := by decide
      simpa [Nat.toDigits_of_lt_base hlt] using hdigit n hlt hn
    · rw [Nat.toDigits_of_base_le (by decide) (by omega)]
      have hne : Nat.toDigits 10 (n / 10) ≠ [] := Nat.toDigits_ne_nil
      rw [List.head?_append_of_ne_nil _ hne]
      exact ih (n / 10) (by omega) (by omega)

theorem ne_of_isDigit {d c : Char} (hd : d.isDigit = true) (hc : c.isDigit = false) : d ≠ c := by
  rintro rfl
  simp [hd] at hc

/-- A numeral is some decimal digits, with or without a plus sign in front. -/
def Denotes (s : String) (n : Nat) : Prop :=
  ∃ ds, (s.toList = ds ∨ s.toList = '+' :: ds) ∧ ds ≠ [] ∧ (∀ d ∈ ds, d.isDigit = true) ∧
    Nat.ofDigitChars 10 ds 0 = n

theorem denotes_toString (n : Nat) : Denotes (toString n) n :=
  ⟨Nat.toDigits 10 n, Or.inl (by simp), Nat.toDigits_ne_nil, isDigit_toDigits n,
    Nat.ofDigitChars_ten_toDigits⟩

theorem digits?_eq_some_iff {ds : List Char} {n : Nat} :
    digits? ds = some n ↔
      ds ≠ [] ∧ (∀ d ∈ ds, d.isDigit = true) ∧ Nat.ofDigitChars 10 ds 0 = n := by
  simp [digits?, and_assoc]

theorem unsigned?_eq_some_iff {s : String} {n : Nat} :
    unsigned? s.toList = some n ↔ Denotes s n := by
  constructor
  · intro h
    rw [unsigned?.eq_def] at h
    split at h
    case h_1 ds hs => exact ⟨ds, Or.inr hs, digits?_eq_some_iff.mp h⟩
    case h_2 ds hs => exact ⟨_, Or.inl rfl, digits?_eq_some_iff.mp h⟩
  · rintro ⟨ds, hs | hs, hds⟩
    · have hplus : ∀ rest, ds ≠ '+' :: rest := by
        rintro rest rfl
        exact absurd (hds.2.1 '+' (by simp)) (by decide)
      rw [hs, unsigned?]
      · exact digits?_eq_some_iff.mpr hds
      · exact hplus
    · rw [hs, unsigned?]
      exact digits?_eq_some_iff.mpr hds

theorem uint64?_eq_some_iff {s : String} {n : UInt64} : uint64? s = some n ↔ Denotes s n.toNat := by
  rw [← unsigned?_eq_some_iff, uint64?, below?, Option.map_eq_some_iff]
  constructor
  · rintro ⟨m, hm, rfl⟩
    obtain ⟨hread, hlt⟩ := Option.filter_eq_some_iff.mp hm
    rw [hread, UInt64.toNat_ofNat_of_lt' (of_decide_eq_true hlt)]
  · intro h
    exact ⟨n.toNat, by simp [h, n.toNat_lt], UInt64.ofNat_toNat⟩

end Numeral

namespace Reader

variable {α β : Type} {r : Reader α} {s rest : List Char} {a : α}

theorem char_self (c : Char) (rest : List Char) : char c (c :: rest) = some ((), rest) := if_pos rfl

theorem many_of_none (h : r s = none) : many r s = ([], s) := by
  rw [many, h]

theorem many_of_some (h : r s = some (a, rest)) (hlen : rest.length < s.length) :
    many r s = (a :: (many r rest).1, (many r rest).2) := by
  rw [many, h]
  exact if_pos hlen

theorem many_flatMap {write : β → List Char} {f : β → α} {bs : List β}
    (hread : ∀ b ∈ bs, ∀ t, r (write b ++ t) = some (f b, t)) (hne : ∀ b ∈ bs, write b ≠ [])
    (hstop : r rest = none) : many r (bs.flatMap write ++ rest) = (bs.map f, rest) := by
  induction bs with
  | nil => exact many_of_none hstop
  | cons b bs ih =>
    have hlen : (bs.flatMap write ++ rest).length <
        (write b ++ (bs.flatMap write ++ rest)).length := by
      have hpos := List.length_pos_of_ne_nil (hne b (by simp))
      simp only [List.length_append]
      omega
    rw [List.flatMap_cons, List.append_assoc, many_of_some (hread b (by simp) _) hlen,
      ih (fun b hb => hread b (by simp [hb])) fun b hb => hne b (by simp [hb])]
    rfl

theorem many_chars {r : Reader Char} {cs : List Char}
    (hread : ∀ c ∈ cs, ∀ t, r (c :: t) = some (c, t)) (hstop : r rest = none) :
    many r (cs ++ rest) = (cs, rest) := by
  have h : many r (cs.flatMap (fun c => [c]) ++ rest) = (cs.map id, rest) :=
    many_flatMap hread (by simp) hstop
  rwa [List.flatMap_singleton', List.map_id] at h

theorem takeWhile_append {p : Char → Bool} {cs : List Char} (hp : ∀ c ∈ cs, p c = true)
    (hrest : ∀ c ∈ rest.head?, p c = false) : (cs ++ rest).takeWhile p = cs := by
  rw [List.takeWhile_append_of_pos hp]
  cases rest with
  | nil => simp
  | cons c rest => simp [hrest c (by simp)]

theorem dropWhile_append {p : Char → Bool} {cs : List Char} (hp : ∀ c ∈ cs, p c = true)
    (hrest : ∀ c ∈ rest.head?, p c = false) : (cs ++ rest).dropWhile p = rest := by
  rw [List.dropWhile_append_of_pos hp]
  cases rest with
  | nil => rfl
  | cons c rest => simp [hrest c (by simp)]

theorem run_append {p : Char → Bool} {cs : List Char} (hcs : cs ≠ []) (hp : ∀ c ∈ cs, p c = true)
    (hrest : ∀ c ∈ rest.head?, p c = false) : run p (cs ++ rest) = some (cs, rest) := by
  simp only [run, takeWhile_append hp hrest, dropWhile_append hp hrest]

end Reader

end LorawanRouting
