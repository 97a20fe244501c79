import LorawanRouting.Proofs.Calendar
import LorawanRouting.Proofs.Readers
import LorawanRouting.Time.Rfc3339
import Mathlib.Data.List.Basic

/-!
Instants and their texts. The written text of an instant reads back as that instant exactly when
its year, in universal time, has four digits and no sign.
-/

namespace LorawanRouting.Rfc3339

theorem isDigit_padded {width n : Nat} : ∀ c ∈ padded width n, c.isDigit = true := by
  intro c hc
  rcases List.mem_append.mp hc with h | h
  · rw [List.eq_of_mem_replicate h]
    rfl
  · exact Nat.isDigit_of_mem_toDigits (by omega) (by omega) h

theorem length_padded {width n : Nat} (hw : 0 < width) (hn : n < 10 ^ width) :
    (padded width n).length = width := by
  have hle : (Nat.toDigits 10 n).length ≤ width :=
    (Nat.length_toDigits_le_iff (by omega) hw).mpr hn
  simp only [padded, Numeral.write, List.length_append, List.length_replicate]
  omega

theorem ofDigitChars_padded (width n : Nat) : Nat.ofDigitChars 10 (padded width n) 0 = n := by
  rw [padded, Nat.ofDigitChars_append, Nat.ofDigitChars_replicate_zero, Nat.mul_zero]
  exact Nat.ofDigitChars_ten_toDigits

theorem fixed_padded {width n : Nat} (hw : 0 < width) (hn : n < 10 ^ width) (rest : List Char) :
    fixed width (padded width n ++ rest) = some (n, rest) := by
  have hlen := length_padded hw hn
  have htake : (padded width n ++ rest).take width = padded width n :=
    List.take_left' hlen
  have hdrop : (padded width n ++ rest).drop width = rest := List.drop_left' hlen
  have hall : (padded width n).all Char.isDigit = true := List.all_eq_true.mpr isDigit_padded
  simp [fixed, Reader.exactly, htake, hdrop, hlen, hall, ofDigitChars_padded]

theorem char_cons (c : Char) (rest : List Char) : Reader.char c (c :: rest) = some ((), rest) := by
  simp [Reader.char]

theorem readDate_written {d : Date} (hd : d.Valid) (h0 : 0 ≤ d.year) (h9999 : d.year ≤ 9999)
    (rest : List Char) :
    readDate (padded 4 d.year.toNat ++ '-' :: (padded 2 d.month ++ '-' :: (padded 2 d.day ++ rest)))
      = some (d, rest) := by
  have ⟨_, hm, _, hday⟩ := hd
  have h31 : Date.daysInMonth d.year d.month ≤ 31 := by
    simp only [Date.daysInMonth]
    split_ifs <;> omega
  have hyear : (d.year.toNat : Int) = d.year := Int.toNat_of_nonneg h0
  simp only [readDate, fixed_padded (show 0 < 4 by decide) (show d.year.toNat < 10 ^ 4 by omega),
    fixed_padded (show 0 < 2 by decide) (show d.month < 10 ^ 2 by omega),
    fixed_padded (show 0 < 2 by decide) (show d.day < 10 ^ 2 by omega), char_cons,
    Option.bind_eq_bind, Option.bind_some, hyear]
  exact if_pos hd

theorem readTime_written {hour minute second leap : Nat} (hh : hour ≤ 23) (hm : minute ≤ 59)
    (hs : second ≤ 59) (hleap : leap = 0 ∨ leap = 1 ∧ second = 59) (rest : List Char) :
    readTime (padded 2 hour ++ ':' :: (padded 2 minute ++ ':' :: (padded 2 (second + leap) ++ rest)))
      = some ((3600 * hour + 60 * minute + second, leap * 1000000000), rest) := by
  simp only [readTime, fixed_padded (show 0 < 2 by decide) (show hour < 10 ^ 2 by omega),
    fixed_padded (show 0 < 2 by decide) (show minute < 10 ^ 2 by omega),
    fixed_padded (show 0 < 2 by decide) (show second + leap < 10 ^ 2 by omega), char_cons,
    Option.bind_eq_bind, Option.bind_some]
  rw [if_pos ⟨hh, hm, by omega⟩]
  rcases hleap with rfl | ⟨rfl, rfl⟩
  · rw [if_neg (by omega)]
    simp
  · simp

theorem readFraction_written {nanos : Nat} (hn : nanos < 1000000000) (rest : List Char)
    (hrest : ∀ c ∈ rest.head?, c.isDigit = false) :
    readFraction ('.' :: (padded 9 nanos ++ rest)) = some (nanos, rest) := by
  have hlen := length_padded (show 0 < 9 by decide) (show nanos < 10 ^ 9 by omega)
  have hne : padded 9 nanos ≠ [] := by
    intro h
    simp [h] at hlen
  have hrun := Reader.run_append hne isDigit_padded hrest
  simp [readFraction, hrun, hlen, ofDigitChars_padded, List.take_of_length_le]

/-- The years that are written with four digits and no sign. -/
def HasPlainYear (t : Timestamp) : Prop := 0 ≤ t.date.year ∧ t.date.year ≤ 9999

instance (t : Timestamp) : Decidable (HasPlainYear t) := inferInstanceAs (Decidable (_ ∧ _))

theorem of?_parts (t : Timestamp) : Timestamp.of? t.seconds t.nanos = some t :=
  dif_pos ⟨t.nanos_lt, t.leap_at_minute_end⟩

theorem writeChars_of_hasPlainYear {t : Timestamp} (ht : HasPlainYear t) {leap frac : Nat}
    (hleap : (if 1000000000 ≤ t.nanos then 1 else 0) = leap)
    (hfrac : t.nanos - leap * 1000000000 = frac) :
    writeChars t = padded 4 t.date.year.toNat ++ '-' :: (padded 2 t.date.month ++
      '-' :: (padded 2 t.date.day ++ 'T' :: (padded 2 (t.secondOfDay / 3600) ++
      ':' :: (padded 2 (t.secondOfDay / 60 % 60) ++
      ':' :: (padded 2 (t.secondOfDay % 60 + leap) ++ '.' :: (padded 9 frac ++ ['Z'])))))) := by
  have hyear : writeYear t.date.year = padded 4 t.date.year.toNat := if_pos ht
  rw [writeChars, hyear, hleap, hfrac]
  simp only [List.append_assoc, List.cons_append]

theorem readTimestamp_of_parts {s₀ s₁ s₂ s₃ s₄ : List Char} {date : Date} {second leap nanos : Nat}
    {ahead : Int} {t : Timestamp} (hdate : readDate s₀ = some (date, 'T' :: s₁))
    (htime : readTime s₁ = some ((second, leap), s₂)) (hfrac : readFraction s₂ = some (nanos, s₃))
    (hoffset : readOffset ['+', '-', '\u2212'] s₃ = some (ahead, s₄))
    (ht : Timestamp.of? (86400 * date.dayNumber + second - ahead) (leap + nanos) = some t) :
    readTimestamp s₀ = some (t, s₄) := by
  simp [readTimestamp, hdate, Reader.oneOf, htime, hfrac, hoffset, ht]

theorem readTimestamp_written {t : Timestamp} (ht : HasPlainYear t) :
    readTimestamp (writeChars t) = some (t, []) := by
  obtain ⟨hvalid, hday⟩ : t.date.Valid ∧ t.date.dayNumber = t.seconds / 86400 :=
    Date.ofDayNumber_spec _
  have hend := t.leap_at_minute_end
  have hnanos := t.nanos_lt
  have hsecond : (t.secondOfDay : Int) = t.seconds % 86400 :=
    Int.toNat_of_nonneg (Int.emod_nonneg _ (by decide))
  have hlt : t.seconds % 86400 < 86400 := Int.emod_lt_of_pos _ (by decide)
  generalize hl : (if 1000000000 ≤ t.nanos then 1 else 0) = leap
  have hleap : leap = 0 ∨ leap = 1 ∧ t.secondOfDay % 60 = 59 := by
    split at hl <;> omega
  generalize hf : t.nanos - leap * 1000000000 = frac
  have hfrac : frac < 1000000000 ∧ leap * 1000000000 + frac = t.nanos := by
    split at hl <;> omega
  have htotal : 86400 * (t.seconds / 86400) + ((3600 * (t.secondOfDay / 3600) +
      60 * (t.secondOfDay / 60 % 60) + t.secondOfDay % 60 : Nat) : Int) - 0 = t.seconds := by
    omega
  rw [writeChars_of_hasPlainYear ht hl hf]
  apply readTimestamp_of_parts (readDate_written hvalid ht.1 ht.2 _)
    (readTime_written (by omega) (by omega) (by omega) hleap _)
    (readFraction_written hfrac.1 ['Z'] (by simp)) rfl
  rw [hday, htotal, hfrac.2, of?_parts]

theorem readTimestamp_signed {t : Timestamp} (ht : ¬ HasPlainYear t) :
    readTimestamp (writeChars t) = none := by
  have hsign : ∀ (sign : Char) (rest : List Char), sign.isDigit = false →
      readTimestamp (sign :: rest) = none := by
    intro sign rest hs
    simp [readTimestamp, readDate, fixed, Reader.exactly, hs]
  obtain ⟨sign, rest, hs, hcs⟩ : ∃ sign rest, sign.isDigit = false ∧ writeChars t = sign :: rest := by
    have hyear : writeYear t.date.year =
        (if t.date.year < 0 then '-' else '+') :: padded 4 t.date.year.natAbs := if_neg ht
    simp only [writeChars, hyear, List.cons_append]
    exact ⟨_, _, by split <;> rfl, rfl⟩
  rw [hcs]
  exact hsign sign rest hs

theorem read?_write (t : Timestamp) :
    read? (write t) = if HasPlainYear t then some t else none := by
  rw [read?, write, String.toList_ofList, Reader.complete]
  split_ifs with ht
  · rw [readTimestamp_written ht]
  · rw [readTimestamp_signed ht]

theorem write_ne_empty (t : Timestamp) : write t ≠ "" := by
  intro h
  have hlen : (write t).toList = [] := by rw [h]; rfl
  simp [write, writeChars] at hlen

end LorawanRouting.Rfc3339
