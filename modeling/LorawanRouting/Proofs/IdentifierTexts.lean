import LorawanRouting.Proofs.Identifier

/-!
Which texts are identifiers. Exactly the texts of as many digits as it takes are read, and what is
read shows as the same text in upper case; any other text is refused for one reason. Texts of
identifiers stand in the order of the identifiers.
-/

namespace LorawanRouting

namespace Hex

def IsDigit (c : Char) : Prop :=
  ('0' ≤ c ∧ c ≤ '9') ∨ ('A' ≤ c ∧ c ≤ 'F') ∨ ('a' ≤ c ∧ c ≤ 'f')

instance (c : Char) : Decidable (IsDigit c) := inferInstanceAs (Decidable (_ ∨ _))

def IsDigitByte (b : UInt8) : Prop := IsDigit (Char.ofUInt8 b)

instance (b : UInt8) : Decidable (IsDigitByte b) := inferInstanceAs (Decidable (IsDigit _))

theorem isDigit_iff {c : Char} : IsDigit c ↔
    48 ≤ c.toNat ∧ c.toNat ≤ 57 ∨ 65 ≤ c.toNat ∧ c.toNat ≤ 70 ∨ 97 ≤ c.toNat ∧ c.toNat ≤ 102 :=
  Iff.rfl

theorem toNat_ofUInt8 (b : UInt8) : (Char.ofUInt8 b).toNat = b.toNat :=
  UInt8.toNat_toUInt32 b

theorem isDigitByte_iff {b : UInt8} : IsDigitByte b ↔
    48 ≤ b.toNat ∧ b.toNat ≤ 57 ∨ 65 ≤ b.toNat ∧ b.toNat ≤ 70 ∨ 97 ≤ b.toNat ∧ b.toNat ≤ 102 := by
  rw [IsDigitByte, isDigit_iff, toNat_ofUInt8]

theorem digitValue_eq_none_iff {b : UInt8} : digitValue b = none ↔ ¬ IsDigitByte b := by
  rw [isDigitByte_iff, digitValue]
  split_ifs <;> simp <;> omega

theorem isDigitByte_of_digitValue {b : UInt8} {n : Nat} (h : digitValue b = some n) :
    IsDigitByte b := by
  by_contra hb
  rw [digitValue_eq_none_iff.mpr hb] at h
  cases h

theorem upperDigit_of_digitValue {b : UInt8} {n : Nat} (h : digitValue b = some n) :
    n < 16 ∧ upperDigit n = (Char.ofUInt8 b).toUpper := by
  have hall : ∀ v < 256, ∀ n ∈ digitValue (UInt8.ofNat v),
      n < 16 ∧ upperDigit n = (Char.ofUInt8 (UInt8.ofNat v)).toUpper := by decide +kernel
  have hb := hall b.toNat b.toNat_lt n
  rw [UInt8.ofNat_toNat] at hb
  exact hb h

def FirstBad (bytes : List UInt8) (i : Nat) (b : UInt8) : Prop :=
  bytes[i]? = some b ∧ ¬ IsDigitByte b ∧ ∀ c ∈ bytes.take i, IsDigitByte c

theorem digits_cons_pair {x y : Nat} (hx : x < 16) (hy : y < 16) (bytes : List UInt8) :
    digits upperDigit (UInt8.ofNat (16 * x + y) :: bytes) =
      upperDigit x :: upperDigit y :: digits upperDigit bytes := by
  have hbyte : (UInt8.ofNat (16 * x + y)).toNat = 16 * x + y := by
    simp only [UInt8.toNat_ofNat']
    omega
  have hhigh : (16 * x + y) / 16 = x := by omega
  have hlow : (16 * x + y) % 16 = y := by omega
  simp only [digits, List.flatMap_cons, hbyte, hhigh, hlow, List.cons_append, List.nil_append]

theorem FirstBad.cons {bytes : List UInt8} {i : Nat} {a b : UInt8} (h : FirstBad bytes i b)
    (ha : IsDigitByte a) : FirstBad (a :: bytes) (i + 1) b := by
  obtain ⟨hi, hb, hbefore⟩ := h
  exact ⟨hi, hb, by simpa [ha] using hbefore⟩

theorem FirstBad.unique {bytes : List UInt8} {i j : Nat} {b c : UInt8} (h : FirstBad bytes i b)
    (h' : FirstBad bytes j c) : i = j ∧ b = c := by
  obtain ⟨hi, hb, hbefore⟩ := h
  obtain ⟨hj, hc, hbefore'⟩ := h'
  have hmem : ∀ {k l : Nat} {d : UInt8}, bytes[k]? = some d → k < l → d ∈ bytes.take l := by
    intro k l d hd hkl
    rw [← List.getElem?_take_of_lt hkl] at hd
    exact List.mem_of_getElem? hd
  rcases Nat.lt_trichotomy i j with hij | rfl | hji
  · exact absurd (hbefore' b (hmem hi hij)) hb
  · exact ⟨rfl, Option.some.inj (hi.symm.trans hj)⟩
  · exact absurd (hbefore c (hmem hj hji)) hc

theorem FirstBad.head {b : UInt8} (hb : ¬ IsDigitByte b) (bytes : List UInt8) :
    FirstBad (b :: bytes) 0 b := ⟨rfl, hb, by simp⟩

theorem readPairs_cases (position : Nat) {bytes : List UInt8} (heven : bytes.length % 2 = 0) :
    (∃ out, readPairs position bytes = .ok out ∧ (∀ b ∈ bytes, IsDigitByte b) ∧
      digits upperDigit out = bytes.map fun b => (Char.ofUInt8 b).toUpper) ∨
    ∃ i b, readPairs position bytes = .error (.badByte b (position + i)) ∧ FirstBad bytes i b := by
  fun_induction readPairs position bytes with
  | case1 => exact Or.inl ⟨[], rfl, by simp, rfl⟩
  | case2 => simp at heven
  | case3 position a b rest ha =>
    exact Or.inr ⟨0, a, rfl, FirstBad.head (digitValue_eq_none_iff.mp ha) _⟩
  | case4 position a b rest x hb ha =>
    have hbad := FirstBad.head (digitValue_eq_none_iff.mp hb) rest
    exact Or.inr ⟨1, b, rfl, hbad.cons (isDigitByte_of_digitValue ha)⟩
  | case5 position a b rest x y hb ha out hrest ih =>
    have hrestEven : rest.length % 2 = 0 := by simpa [Nat.add_assoc] using heven
    obtain ⟨hx, hshow⟩ := upperDigit_of_digitValue ha
    obtain ⟨hy, hshow'⟩ := upperDigit_of_digitValue hb
    rcases ih hrestEven with ⟨out', hout, hdigits, hshown⟩ | ⟨i, c, herr, -⟩
    · obtain rfl := Except.ok.inj (hrest.symm.trans hout)
      refine Or.inl ⟨_, rfl, ?_, ?_⟩
      · simpa [isDigitByte_of_digitValue ha, isDigitByte_of_digitValue hb] using hdigits
      · rw [digits_cons_pair hx hy, hshown, hshow, hshow', List.map_cons, List.map_cons]
    · rw [hrest] at herr
      cases herr
  | case6 position a b rest x y hb ha e hrest ih =>
    have hrestEven : rest.length % 2 = 0 := by simpa [Nat.add_assoc] using heven
    rcases ih hrestEven with ⟨out, hout, -⟩ | ⟨i, c, herr, hbad⟩
    · rw [hrest] at hout
      cases hout
    · obtain rfl := Except.error.inj (hrest.symm.trans herr)
      have hskip := (hbad.cons (isDigitByte_of_digitValue hb)).cons (isDigitByte_of_digitValue ha)
      exact Or.inr ⟨i + 2, c, by rw [Nat.add_right_comm, Nat.add_assoc], hskip⟩

theorem utf8EncodeChar_of_ascii {c : Char} (h : c.toNat < 128) :
    String.utf8EncodeChar c = [UInt8.ofNat c.toNat] := by
  have hc : c.val.toNat ≤ 0x7f := Nat.le_of_lt_succ h
  simp only [String.utf8EncodeChar, hc, if_true]
  rfl

theorem exists_high_byte {c : Char} (h : 128 ≤ c.toNat) :
    ∃ b ∈ String.utf8EncodeChar c, 128 ≤ b.toNat := by
  have hc : ¬ c.val.toNat ≤ 0x7f := Nat.not_le.mpr h
  simp only [String.utf8EncodeChar, hc, if_false]
  split_ifs
  all_goals
    refine ⟨_, List.mem_cons_self, ?_⟩
    simp only [UInt8.toNat_ofNat']
    omega

theorem ofUInt8_ofNat {c : Char} (h : c.toNat < 128) : Char.ofUInt8 (UInt8.ofNat c.toNat) = c := by
  rw [← Char.toNat_inj, toNat_ofUInt8, UInt8.toNat_ofNat_of_lt' (by simp [UInt8.size]; omega)]

theorem IsDigit.toNat_lt {c : Char} (h : IsDigit c) : c.toNat < 128 := by
  rw [isDigit_iff] at h
  omega

theorem forall_utf8EncodeChar_iff {c : Char} :
    (∀ b ∈ String.utf8EncodeChar c, IsDigitByte b) ↔ IsDigit c := by
  by_cases hc : c.toNat < 128
  · simp [utf8EncodeChar_of_ascii hc, IsDigitByte, ofUInt8_ofNat hc]
  · refine iff_of_false (fun hdigits => ?_) fun hdigit => hc hdigit.toNat_lt
    obtain ⟨b, hb, hhigh⟩ := exists_high_byte (Nat.le_of_not_lt hc)
    have hdigit := isDigitByte_iff.mp (hdigits b hb)
    omega

theorem forall_utf8_iff {s : String} :
    (∀ b ∈ utf8 s, IsDigitByte b) ↔ ∀ c ∈ s.toList, IsDigit c := by
  simp only [utf8, List.mem_flatMap, ← forall_utf8EncodeChar_iff]
  constructor
  · intro h c hc b hb
    exact h b ⟨c, hc, hb⟩
  · rintro h b ⟨c, hc, hb⟩
    exact h c hc b hb

theorem map_flatMap_utf8EncodeChar {cs : List Char} (h : ∀ c ∈ cs, IsDigit c) :
    (cs.flatMap String.utf8EncodeChar).map Char.ofUInt8 = cs := by
  induction cs with
  | nil => rfl
  | cons c cs ih =>
    have hc := (h c (by simp)).toNat_lt
    rw [List.flatMap_cons, utf8EncodeChar_of_ascii hc, List.map_append,
      ih fun d hd => h d (by simp [hd]), List.map_cons, ofUInt8_ofNat hc]
    rfl

theorem utf8_eq_data (s : String) : utf8 s = s.toUTF8.data.toList := by
  rw [String.toUTF8_eq_toByteArray, ← String.utf8Encode_toList, List.utf8Encode,
    List.data_toByteArray]
  rfl

theorem length_utf8 (s : String) : (utf8 s).length = s.utf8ByteSize := by
  rw [utf8_eq_data, String.toUTF8_eq_toByteArray, ← String.size_toByteArray]
  rfl

theorem upperDigit_lt_iff {m n : Nat} (hm : m < 16) (hn : n < 16) :
    (upperDigit m < upperDigit n ↔ m < n) ∧ (upperDigit m = upperDigit n ↔ m = n) := by
  have hall : ∀ m < 16, ∀ n < 16,
      (upperDigit m < upperDigit n ↔ m < n) ∧ (upperDigit m = upperDigit n ↔ m = n) := by decide
  exact hall m hm n hn

theorem compare_eq_lt_iff {as bs : List UInt8} : compare as bs = .lt ↔ as < bs := by
  induction as generalizing bs with
  | nil => cases bs <;> simp
  | cons a as ih =>
    cases bs with
    | nil => simp
    | cons b bs =>
      rw [List.compare_cons_cons, List.cons_lt_cons_iff, ← ih, Ordering.then_eq_lt,
        Std.compare_eq_lt, Std.LawfulEqCmp.compare_eq_iff_eq]

theorem digits_lt_iff {as bs : List UInt8} :
    digits upperDigit as < digits upperDigit bs ↔ as < bs := by
  induction as generalizing bs with
  | nil => cases bs <;> simp [digits]
  | cons a as ih =>
    cases bs with
    | nil => simp [digits]
    | cons b bs =>
      have ha := a.toNat_lt
      have hb := b.toNat_lt
      obtain ⟨hhigh, hhigh'⟩ :=
        upperDigit_lt_iff (show a.toNat / 16 < 16 by omega) (show b.toNat / 16 < 16 by omega)
      obtain ⟨hlow, hlow'⟩ :=
        upperDigit_lt_iff (show a.toNat % 16 < 16 by omega) (show b.toNat % 16 < 16 by omega)
      simp only [digits, List.flatMap_cons, List.cons_append, List.nil_append,
        List.cons_lt_cons_iff] at ih ⊢
      rw [hhigh, hhigh', hlow, hlow', ih, UInt8.lt_iff_toNat_lt, ← UInt8.toNat_inj]
      by_cases hrest : as < bs
      · simp only [hrest, and_true]
        omega
      · simp only [hrest, and_false, or_false]
        omega

end Hex

namespace Identifier
open Hex (IsDigit FirstBad)

variable {kind : IdKind} {s : String} {e : IdError}

/-- Why a text is no identifier: an odd number of bytes, or else the first byte that is no digit,
or else too few or too many digits. -/
inductive Refused (kind : IdKind) (s : String) : IdError → Prop
  | oddLength (h : s.utf8ByteSize % 2 = 1) : Refused kind s (.badHex kind .oddLength)
  | badByte {i : Nat} {b : UInt8} (heven : s.utf8ByteSize % 2 = 0)
      (hbad : FirstBad (Hex.utf8 s) i b) : Refused kind s (.badHex kind (.badByte b i))
  | badLength (heven : s.utf8ByteSize % 2 = 0) (hdigits : ∀ c ∈ s.toList, IsDigit c)
      (hlength : s.utf8ByteSize / 2 ≠ kind.size) :
      Refused kind s (.badLength kind (s.utf8ByteSize / 2))

theorem utf8ByteSize_of_digits (h : ∀ c ∈ s.toList, IsDigit c) :
    s.utf8ByteSize = s.toList.length := by
  rw [← Hex.length_utf8]
  have hchars := Hex.map_flatMap_utf8EncodeChar h
  calc (Hex.utf8 s).length = ((Hex.utf8 s).map Char.ofUInt8).length := (List.length_map _).symm
    _ = s.toList.length := congrArg List.length hchars

theorem not_digits_of_firstBad {i : Nat} {b : UInt8} (hbad : FirstBad (Hex.utf8 s) i b) :
    ¬ ∀ c ∈ s.toList, IsDigit c := by
  intro hdigits
  obtain ⟨hi, hb, -⟩ := hbad
  exact hb (Hex.forall_utf8_iff.mpr hdigits b (List.mem_of_getElem? hi))

theorem Refused.unique {e' : IdError} (h : Refused kind s e) (h' : Refused kind s e') : e = e' := by
  cases h with
  | oddLength hodd => cases h' <;> first | rfl | omega
  | badByte heven hbad =>
    cases h' with
    | oddLength => omega
    | badByte _ hbad' =>
      obtain ⟨rfl, rfl⟩ := hbad.unique hbad'
      rfl
    | badLength _ hdigits => exact absurd hdigits (not_digits_of_firstBad hbad)
  | badLength heven hdigits hlength =>
    cases h' with
    | oddLength => omega
    | badByte _ hbad => exact absurd hdigits (not_digits_of_firstBad hbad)
    | badLength => rfl

theorem Refused.not_written (h : Refused kind s e) :
    ¬ (s.toList.length = 2 * kind.size ∧ ∀ c ∈ s.toList, IsDigit c) := by
  rintro ⟨hlength, hdigits⟩
  have hsize := utf8ByteSize_of_digits hdigits
  cases h with
  | oddLength hodd => omega
  | badByte heven hbad => exact not_digits_of_firstBad hbad hdigits
  | badLength heven _ hne => omega

theorem text_of_digits {x : Identifier kind} (hdigits : ∀ c ∈ s.toList, IsDigit c)
    (hshown : Hex.digits Hex.upperDigit x.bytes =
      (Hex.utf8 s).map fun b => (Char.ofUInt8 b).toUpper) : x.text = s.toUpper := by
  apply String.toList_injective
  have hchars : (Hex.utf8 s).map Char.ofUInt8 = s.toList := Hex.map_flatMap_utf8EncodeChar hdigits
  rw [text, Hex.upper, String.toList_ofList, hshown, String.toUpper, String.toList_map, ← hchars,
    List.map_map]
  rfl

theorem ofText_cases (kind : IdKind) (s : String) :
    (∃ x, ofText kind s = .ok x ∧
      (s.toList.length = 2 * kind.size ∧ ∀ c ∈ s.toList, IsDigit c) ∧ x.text = s.toUpper) ∨
    ∃ e, ofText kind s = .error e ∧ Refused kind s e := by
  have hsize := Hex.length_utf8 s
  by_cases hodd : s.utf8ByteSize % 2 = 1
  · exact Or.inr ⟨_, by simp [ofText, Hex.read, hsize, hodd], .oddLength hodd⟩
  · have heven : s.utf8ByteSize % 2 = 0 := by omega
    have hread : Hex.read s = Hex.readPairs 0 (Hex.utf8 s) := by simp [Hex.read, hsize, heven]
    have hpairs : (Hex.utf8 s).length % 2 = 0 := by rw [hsize, heven]
    rcases Hex.readPairs_cases 0 hpairs with ⟨out, hout, hbytes, hshown⟩ | ⟨i, b, herr, hbad⟩
    · have hdigits := Hex.forall_utf8_iff.mp hbytes
      have hlength : 2 * out.length = s.utf8ByteSize := by
        rw [← Hex.length_digits Hex.upperDigit, hshown, List.length_map, hsize]
      have hchars := utf8ByteSize_of_digits hdigits
      by_cases hkind : out.length = kind.size
      · refine Or.inl ⟨⟨out, hkind⟩, ?_, ⟨by omega, hdigits⟩, text_of_digits hdigits hshown⟩
        simp [ofText, hread, hout, hkind]
      · have hhalf : out.length = s.utf8ByteSize / 2 := by omega
        refine Or.inr ⟨.badLength kind (s.utf8ByteSize / 2), ?_, ?_⟩
        · simp [ofText, hread, hout, hkind, ← hhalf]
        · exact .badLength heven hdigits (by omega)
    · refine Or.inr ⟨_, ?_, .badByte heven hbad⟩
      simp [ofText, hread, herr]

theorem ofText_eq_ok_iff {x : Identifier kind} : ofText kind s = .ok x ↔
    (s.toList.length = 2 * kind.size ∧ ∀ c ∈ s.toList, IsDigit c) ∧ x.text = s.toUpper := by
  rcases ofText_cases kind s with ⟨y, hy, hwritten, hshown⟩ | ⟨e, he, hrefused⟩
  · rw [hy, Except.ok.injEq]
    constructor
    · rintro rfl
      exact ⟨hwritten, hshown⟩
    · rintro ⟨-, hx⟩
      exact text_injective (hshown.trans hx.symm)
  · rw [he]
    exact iff_of_false (fun h => by cases h) fun h => hrefused.not_written h.1

theorem ofText_eq_error_iff : ofText kind s = .error e ↔ Refused kind s e := by
  rcases ofText_cases kind s with ⟨x, hx, hwritten, -⟩ | ⟨e', he', hrefused⟩
  · rw [hx]
    exact iff_of_false (fun h => by cases h) fun h => h.not_written hwritten
  · rw [he', Except.error.injEq]
    constructor
    · rintro rfl
      exact hrefused
    · exact hrefused.unique

theorem exists_ofText_iff : (∃ x, ofText kind s = .ok x) ↔
    s.toList.length = 2 * kind.size ∧ ∀ c ∈ s.toList, IsDigit c := by
  constructor
  · rintro ⟨x, hx⟩
    exact (ofText_eq_ok_iff.mp hx).1
  · intro hwritten
    rcases ofText_cases kind s with ⟨x, hx, -⟩ | ⟨e, -, hrefused⟩
    · exact ⟨x, hx⟩
    · exact absurd hwritten hrefused.not_written

theorem text_lt_iff {x y : Identifier kind} : x.text < y.text ↔ x.bytes < y.bytes := by
  rw [String.lt_iff, text, text, Hex.upper, Hex.upper, String.toList_ofList, String.toList_ofList,
    Hex.digits_lt_iff]

theorem compare_eq_lt_iff {x y : Identifier kind} : compare x y = .lt ↔ x.bytes < y.bytes :=
  Hex.compare_eq_lt_iff

theorem isLE_compare_iff {x y : Identifier kind} : (compare x y).isLE ↔ x.text ≤ y.text := by
  have hswap : compare x y = (compare y x).swap := Std.OrientedCmp.eq_swap
  rw [← String.not_lt, text_lt_iff, ← compare_eq_lt_iff, hswap]
  cases compare y x <;> decide

theorem map_text_sort (xs : List (Identifier kind)) :
    (sort xs).map text = (xs.map text).mergeSort := by
  refine List.map_mergeSort fun x _ y _ => ?_
  rw [Bool.eq_iff_iff, isLE_compare_iff, decide_eq_true_iff]

theorem ofText_text (x : Identifier kind) : ofText kind x.text = .ok x := by
  simp [ofText, text, Hex.read_upper, x.length_bytes]

/-- Which texts are identifiers, what they show as, why others are refused, and how they sort. -/
theorem reads_texts_of_digits (kind : IdKind) :
    (∀ s, (∃ x, ofText kind s = .ok x) ↔
      s.toList.length = 2 * kind.size ∧ ∀ c ∈ s.toList, IsDigit c) ∧
    (∀ s x, ofText kind s = .ok x ↔
      (s.toList.length = 2 * kind.size ∧ ∀ c ∈ s.toList, IsDigit c) ∧ x.text = s.toUpper) ∧
    (∀ x : Identifier kind, ofText kind x.text = .ok x) ∧
    (∀ x y : Identifier kind, (compare x y = .lt ↔ x.bytes < y.bytes) ∧
      (x.bytes < y.bytes ↔ x.text < y.text)) ∧
    (∀ xs : List (Identifier kind), (sort xs).map text = (xs.map text).mergeSort) ∧
    (∀ s e, ofText kind s = .error e ↔ Refused kind s e) ∧
    ∀ s, Hex.utf8 s = s.toUTF8.data.toList :=
  ⟨fun _ => exists_ofText_iff, fun _ _ => ofText_eq_ok_iff, ofText_text,
    fun _ _ => ⟨compare_eq_lt_iff, text_lt_iff.symm⟩, map_text_sort,
    fun _ _ => ofText_eq_error_iff, Hex.utf8_eq_data⟩

example : ofText .devAddr "0123é" = .error (.badHex .devAddr (.badByte 0xC3 4)) := by
  decide +kernel

end Identifier

end LorawanRouting
