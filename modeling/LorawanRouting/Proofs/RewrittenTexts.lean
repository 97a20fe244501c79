import LorawanRouting.Proofs.StoredDevices
import Mathlib.Data.List.Induction

/-!
Texts that were read and are written again. More texts can be read than are ever written, but every
value that is read has a text that reads back, with one exception: an offset may put an instant into
the year before the first or after the last that is written plainly.
-/

namespace LorawanRouting

theorem Date.dayNumber_bounds {d : Date} (hd : d.Valid) (h0 : 0 ≤ d.year)
    (h9999 : d.year ≤ 9999) : -719528 ≤ d.dayNumber ∧ d.dayNumber ≤ 2932896 := by
  obtain ⟨hmonth, hmonth', hday, hday'⟩ := hd
  have h31 : daysInMonth d.year d.month ≤ 31 := by
    simp only [daysInMonth]
    split_ifs <;> omega
  simp only [dayNumber, marchDay, monthDay, marchEra]
  split_ifs <;> omega

theorem Date.year_near_bounds {day : Int} (h : -719529 ≤ day ∧ day ≤ 2932897) :
    -1 ≤ (ofDayNumber day).year ∧ (ofDayNumber day).year ≤ 10000 := by
  have hmarch := marchYear_spec (day + marchEra)
  have hyear := year_ofDayNumber day
  simp only [marchDay, marchEra] at hmarch hyear
  omega

namespace Rfc3339

variable {s rest : List Char}

theorem ofDigitChars_lt {ds : List Char} (h : ds.all Char.isDigit = true) :
    Nat.ofDigitChars 10 ds 0 < 10 ^ ds.length := by
  induction ds using List.reverseRecOn with
  | nil => decide
  | append_singleton ds d ih =>
    rw [List.all_append, Bool.and_eq_true, List.all_cons, List.all_nil, Bool.and_true] at h
    obtain ⟨hds, hd⟩ := h
    have hlt := ih hds
    have hdigit : d.toNat - '0'.toNat < 10 := by
      simp only [Char.isDigit, Bool.and_eq_true, decide_eq_true_eq, UInt32.le_iff_toNat_le] at hd
      have hle : d.toNat ≤ 57 := hd.2
      have hzero : '0'.toNat = 48 := rfl
      omega
    rw [Nat.ofDigitChars_append, Nat.ofDigitChars_cons, Nat.ofDigitChars_nil, List.length_append,
      List.length_singleton, Nat.pow_succ]
    omega

theorem fixed_lt {width n : Nat} (h : fixed width s = some (n, rest)) : n < 10 ^ width := by
  simp only [fixed, Reader.exactly, Option.bind_eq_bind, Option.bind_eq_some_iff] at h
  obtain ⟨⟨ds, last⟩, hexact, hn⟩ := h
  split at hexact
  case isTrue hdigits =>
    obtain ⟨rfl, -⟩ := Prod.mk.inj (Option.some.inj hexact)
    obtain ⟨rfl, -⟩ := Prod.mk.inj (Option.some.inj hn)
    have hlt := ofDigitChars_lt hdigits.2
    rwa [hdigits.1] at hlt
  case isFalse => cases hexact

theorem readDate_valid {d : Date} (h : readDate s = some (d, rest)) :
    d.Valid ∧ 0 ≤ d.year ∧ d.year ≤ 9999 := by
  simp only [readDate, Option.bind_eq_bind, Option.bind_eq_some_iff, Prod.exists] at h
  obtain ⟨year, s₁, hyear, _, s₂, -, month, s₃, -, _, s₄, -, day, s₅, -, hd⟩ := h
  split at hd
  case isTrue hvalid =>
    obtain ⟨rfl, -⟩ := Prod.mk.inj (Option.some.inj hd)
    have hlt := fixed_lt hyear
    exact ⟨hvalid, by dsimp only; omega, by dsimp only; omega⟩
  case isFalse => cases hd

theorem readTime_lt {second leap : Nat} (h : readTime s = some ((second, leap), rest)) :
    second < 86400 := by
  simp only [readTime, Option.bind_eq_bind, Option.bind_eq_some_iff, Prod.exists] at h
  obtain ⟨hour, s₁, -, _, s₂, -, minute, s₃, -, _, s₄, -, last, s₅, -, h⟩ := h
  split at h
  case isTrue hbounds =>
    split at h
    · obtain ⟨rfl, -⟩ := Prod.mk.inj (Prod.mk.inj (Option.some.inj h)).1
      omega
    · obtain ⟨rfl, -⟩ := Prod.mk.inj (Prod.mk.inj (Option.some.inj h)).1
      omega
  case isFalse => cases h

theorem readOffset_lt {signs : List Char} {ahead : Int}
    (h : readOffset signs s = some (ahead, rest)) : -86400 < ahead ∧ ahead < 86400 := by
  rw [readOffset.eq_def] at h
  split at h
  · obtain ⟨rfl, -⟩ := Prod.mk.inj (Option.some.inj h)
    decide
  · obtain ⟨rfl, -⟩ := Prod.mk.inj (Option.some.inj h)
    decide
  · simp only [Option.bind_eq_bind, Option.bind_eq_some_iff, Prod.exists] at h
    obtain ⟨sign, s₁, -, hour, s₂, -, _, s₃, -, minute, s₄, -, h⟩ := h
    split at h
    case isTrue hbounds =>
      obtain ⟨rfl, -⟩ := Prod.mk.inj (Option.some.inj h)
      split_ifs <;> omega
    case isFalse => cases h

theorem year_of_read? {v : String} {t : Timestamp} (h : read? v = some t) :
    -1 ≤ t.date.year ∧ t.date.year ≤ 10000 := by
  rw [read?, Reader.complete] at h
  split at h
  case h_1 hread =>
    obtain rfl := Option.some.inj h
    simp only [readTimestamp, Option.bind_eq_bind, Option.bind_eq_some_iff, Prod.exists] at hread
    obtain ⟨date, s₁, hdate, _, s₂, -, second, leap, s₃, htime, nanos, s₄, -, ahead, s₅, hoffset, u,
      hof, hlast⟩ := hread
    obtain ⟨rfl, -⟩ := Prod.mk.inj (Option.some.inj hlast)
    obtain ⟨hvalid, h0, h9999⟩ := readDate_valid hdate
    have hday := Date.dayNumber_bounds hvalid h0 h9999
    have hsecond := readTime_lt htime
    have hahead := readOffset_lt hoffset
    have hseconds : u.seconds = 86400 * date.dayNumber + second - ahead := by
      rw [Timestamp.of?] at hof
      split at hof
      · exact congrArg Timestamp.seconds (Option.some.inj hof).symm
      · cases hof
    exact Date.year_near_bounds (by omega)
  case h_2 => cases h

end Rfc3339

namespace Device

variable {f : DeviceField} {v : String} {b : Device}

theorem read?_of_decodeField (h : blank.decodeField .lastSeen v = .ok b) {t : Timestamp}
    (hseen : b.lastSeen = some t) : Rfc3339.read? v = some t := by
  rw [decodeField] at h
  split at h
  · obtain rfl := Except.ok.inj h
    cases hseen
  · cases hread : Rfc3339.read? v with
    | none => simp [readField?, hread] at h
    | some u =>
      simp only [readField?, hread, Option.map_some] at h
      obtain rfl := Except.ok.inj h
      exact hseen

theorem decodeField_encodeField_of_not_storable (h : blank.decodeField f v = .ok b)
    (hstored : ¬ b.Storable f) : f = .lastSeen ∧ ∃ t, b.lastSeen = some t ∧
      (t.date.year = -1 ∨ t.date.year = 10000) ∧
      blank.decodeField f (b.encodeField f) =
        .error (.invalidField "last_seen" (Rfc3339.write t)) := by
  simp only [Storable, Classical.not_imp, not_forall] at hstored
  obtain ⟨rfl, t, hseen, ht⟩ := hstored
  have hyear := Rfc3339.year_of_read? (read?_of_decodeField h hseen)
  refine ⟨rfl, t, hseen, ?_, ?_⟩
  · rw [Rfc3339.HasPlainYear] at ht
    omega
  · rw [encodeField_lastSeen hseen]
    exact decodeField_signed ht

/-- Which texts are still read, and read alike, once they were read and written again. -/
theorem rewritten_reads_back_iff (h : blank.decodeField f v = .ok b) :
    (blank.decodeField f (b.encodeField f) = .ok b ↔
      (f = .lastSeen → ∀ t ∈ b.lastSeen, Rfc3339.HasPlainYear t)) ∧
    (¬ (f = .lastSeen → ∀ t ∈ b.lastSeen, Rfc3339.HasPlainYear t) →
      f = .lastSeen ∧ ∃ t, b.lastSeen = some t ∧ (t.date.year = -1 ∨ t.date.year = 10000) ∧
        blank.decodeField f (b.encodeField f) =
          .error (.invalidField "last_seen" (Rfc3339.write t))) := by
  refine ⟨⟨fun hread => ?_, fun hstored => ?_⟩, decodeField_encodeField_of_not_storable h⟩
  · by_contra hstored
    obtain ⟨-, t, -, -, herror⟩ := decodeField_encodeField_of_not_storable h hstored
    rw [hread] at herror
    cases herror
  · have hreads : Reads (b.encodeField f) f b := reads_encodeField hstored
    rwa [Reads, ← decodeField_blank_eq v f h] at hreads

/-- A leap second of local time five and a half hours ahead, and options given as an array. -/
theorem rewritten_reads_back_of_leap_second :
    let seen : Device :=
      { blank with lastSeen := some ⟨1483228799, 1500000000, by decide, by decide⟩ }
    let careless : Device := { blank with options := ⟨true, false⟩ }
    blank.decodeField .lastSeen "2017-01-01t05:29:60.5+05:30" = .ok seen ∧
      blank.decodeField .lastSeen (seen.encodeField .lastSeen) = .ok seen ∧
      blank.decodeField .options "[true, false]" = .ok careless ∧
      blank.decodeField .options (careless.encodeField .options) = .ok careless := by
  intro seen careless
  have hseen : blank.decodeField .lastSeen "2017-01-01t05:29:60.5+05:30" = .ok seen := by
    decide +kernel
  have hcareless : blank.decodeField .options "[true, false]" = .ok careless := by
    decide +kernel
  have hstored : seen.Storable .lastSeen := by
    intro _ t ht
    obtain rfl := Option.some.inj ht
    decide
  have hoptions : careless.Storable .options := fun h => by cases h
  exact ⟨hseen, (rewritten_reads_back_iff hseen).1.mpr hstored, hcareless,
    (rewritten_reads_back_iff hcareless).1.mpr hoptions⟩

/-- The first minute of year 0, told by a clock one minute ahead of universal time. -/
theorem rewritten_text_may_be_refused :
    let early : Device :=
      { blank with lastSeen := some ⟨-62167219260, 0, by decide, by decide⟩ }
    blank.decodeField .lastSeen "0000-01-01T00:00:00+00:01" = .ok early ∧
      early.encodeField .lastSeen = "-0001-12-31T23:59:00.000000000Z" ∧
      blank.decodeField .lastSeen (early.encodeField .lastSeen) =
        .error (.invalidField "last_seen" "-0001-12-31T23:59:00.000000000Z") := by
  decide +kernel

end Device

end LorawanRouting
