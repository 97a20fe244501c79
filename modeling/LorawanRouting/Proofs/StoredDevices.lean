import LorawanRouting.Proofs.FieldMaps

/-!
Devices stored whole and read back. A device comes back from its texts unless the time it was last
seen at lies in a year that is written with a sign, and then that one text is refused.
-/

namespace LorawanRouting

theorem Date.year_ofDayNumber (day : Int) :
    let year := marchYear (day + marchEra)
    let rest := day + marchEra - marchDay year
    (ofDayNumber day).year = year ∧ rest < 306 ∨ (ofDayNumber day).year = year + 1 ∧ 306 ≤ rest := by
  simp only [ofDayNumber]
  split
  · exact Or.inl ⟨rfl, by omega⟩
  · exact Or.inr ⟨rfl, by omega⟩

theorem Date.year_bounds (day : Int) :
    (0 ≤ (ofDayNumber day).year ↔ -719528 ≤ day) ∧
      ((ofDayNumber day).year ≤ 9999 ↔ day ≤ 2932896) := by
  have hmarch := marchYear_spec (day + marchEra)
  have hyear := year_ofDayNumber day
  simp only [marchDay, marchEra] at hmarch hyear
  omega

theorem Rfc3339.hasPlainYear_iff (t : Timestamp) :
    HasPlainYear t ↔ -62167219200 ≤ t.seconds ∧ t.seconds ≤ 253402300799 := by
  obtain ⟨hfirst, hlast⟩ := Date.year_bounds (t.seconds / 86400)
  rw [HasPlainYear, Timestamp.date, hfirst, hlast]
  omega

namespace Device

variable {d : Device} {f : DeviceField}

theorem decodeField_eq (d : Device) (f : DeviceField) (value : String) :
    d.decodeField f value = if value = "" then .ok d else
      match blank.readField? value f with
      | some b => .ok (d.copyField b f)
      | none => .error (.invalidField f.name value) := by
  rw [decodeField, readField?_eq_map]
  cases blank.readField? value f <;> rfl

theorem exists_decodeField_iff {value : String} :
    (∃ e, d.decodeField f value = .ok e) ↔ ∃ b, blank.decodeField f value = .ok b := by
  rw [decodeField_eq d, decodeField_eq blank]
  split
  · simp
  · cases blank.readField? value f <;> simp

theorem decodeField_error {value : String} {err : StoreError}
    (h : d.decodeField f value = .error err) :
    err = .invalidField f.name value ∧ blank.decodeField f value = .error err := by
  rw [decodeField_eq] at h ⊢
  split at h
  · cases h
  · rename_i hv
    cases hread : blank.readField? value f with
    | some b => simp [hread] at h
    | none =>
      rw [hread] at h
      have herr : err = .invalidField f.name value := (Except.error.inj h).symm
      simp [hv, herr]

theorem foldlM_readEntry_error {l : List (String × String)} {err : StoreError}
    (h : l.foldlM readEntry d = .error err) :
    ∃ before f v after, l = before ++ (f.name, v) :: after ∧
      (∀ g w, (g.name, w) ∈ before → ∃ b, blank.decodeField g w = .ok b) ∧
      err = .invalidField f.name v ∧ blank.decodeField f v = .error err := by
  induction l generalizing d with
  | nil => cases h
  | cons entry l ih =>
    obtain ⟨name, v⟩ := entry
    rw [List.foldlM_cons] at h
    cases hr : d.readEntry (name, v) with
    | ok d' =>
      rw [hr] at h
      obtain ⟨before, f, w, after, rfl, hbefore, herr⟩ := ih h
      refine ⟨(name, v) :: before, f, w, after, rfl, fun g u hu => ?_, herr⟩
      rcases List.mem_cons.mp hu with heq | hu
      · obtain ⟨rfl, rfl⟩ := Prod.mk.inj heq
        rw [readEntry_name] at hr
        exact exists_decodeField_iff.mp ⟨d', hr⟩
      · exact hbefore g u hu
    | error e =>
      rw [hr] at h
      obtain rfl : e = err := Except.error.inj h
      rw [readEntry] at hr
      cases hn : DeviceField.ofName? name with
      | none => simp [hn] at hr
      | some f =>
        obtain rfl := DeviceField.ofName?_eq_some.mp hn
        simp only [hn] at hr
        exact ⟨[], f, v, l, rfl, by simp, decodeField_error hr⟩

theorem ofFields_error {m : FieldMap} {err : StoreError} (h : ofFields m = .error err) :
    ∃ f v, m[f.name]? = some v ∧ blank.decodeField f v = .error err ∧
      err = .invalidField f.name v := by
  rw [ofFields_eq_foldlM] at h
  obtain ⟨before, f, v, after, hl, -, herr, hrefused⟩ := foldlM_readEntry_error h
  refine ⟨f, v, Std.ExtTreeMap.mem_toList_iff_getElem?_eq_some.mp ?_, hrefused, herr⟩
  rw [hl]
  simp

theorem getElem?_toFields (d : Device) (f : DeviceField) :
    (d.toFields [])[f.name]? = some (d.encodeField f) := by
  have hall : f ∈ DeviceField.orAll [] := by
    cases f <;> decide
  rw [toFields, getElem?_foldl_encode, if_pos hall]

theorem textIn_toFields (d : Device) (f : DeviceField) :
    textIn (d.toFields []) f = d.encodeField f := by
  rw [textIn, getElem?_toFields, Option.getD_some]

theorem ofFields_toFields_of_storable (h : d.Storable .lastSeen) :
    ofFields (d.toFields []) = .ok d := by
  rw [ofFields_eq_ok_iff]
  intro f
  rw [textIn_toFields]
  exact reads_encodeField fun hf => h rfl

theorem encodeField_lastSeen {t : Timestamp} (hseen : d.lastSeen = some t) :
    d.encodeField .lastSeen = Rfc3339.write t := by
  simp [encodeField, hseen]

theorem decodeField_signed {t : Timestamp} (ht : ¬ Rfc3339.HasPlainYear t) :
    blank.decodeField .lastSeen (Rfc3339.write t) =
      .error (.invalidField "last_seen" (Rfc3339.write t)) := by
  simp [decodeField, readField?, Rfc3339.write_ne_empty, Rfc3339.read?_write, ht, DeviceField.name]

theorem ofFields_toFields_of_signed {t : Timestamp} (hseen : d.lastSeen = some t)
    (ht : ¬ Rfc3339.HasPlainYear t) :
    ofFields (d.toFields []) = .error (.invalidField "last_seen" (Rfc3339.write t)) := by
  have hsigned := decodeField_signed ht
  cases hread : ofFields (d.toFields []) with
  | ok e =>
    have hseen' := ofFields_eq_ok_iff.mp hread .lastSeen
    rw [textIn_toFields, encodeField_lastSeen hseen, Reads, hsigned] at hseen'
    cases hseen'
  | error err =>
    obtain ⟨f, v, htext, hrefused, rfl⟩ := ofFields_error hread
    rw [getElem?_toFields] at htext
    obtain rfl := Option.some.inj htext
    -- every other field has a text that reads back
    by_cases hf : f = .lastSeen
    · subst hf
      rw [encodeField_lastSeen hseen]
      rfl
    · have hreads : Reads (d.encodeField f) f d := reads_encodeField fun h => absurd h hf
      rw [Reads, hrefused] at hreads
      cases hreads

/-- Which devices their texts give back, and what is refused otherwise; no two of them share texts. -/
theorem read_back_iff_plain_year (d : Device) :
    (ofFields (d.toFields []) = .ok d ↔ ∀ t ∈ d.lastSeen, Rfc3339.HasPlainYear t) ∧
    (∀ t ∈ d.lastSeen, ¬ Rfc3339.HasPlainYear t →
      ofFields (d.toFields []) = .error (.invalidField "last_seen" (Rfc3339.write t))) ∧
    (∀ t, Rfc3339.HasPlainYear t ↔ -62167219200 ≤ t.seconds ∧ t.seconds ≤ 253402300799) ∧
    ∀ e : Device, (∀ t ∈ d.lastSeen, Rfc3339.HasPlainYear t) →
      (∀ t ∈ e.lastSeen, Rfc3339.HasPlainYear t) → d.toFields [] = e.toFields [] → d = e := by
  refine ⟨⟨fun hread t hseen => ?_, fun h => ofFields_toFields_of_storable fun _ => h⟩,
    fun t hseen ht => ofFields_toFields_of_signed hseen ht, Rfc3339.hasPlainYear_iff,
    fun e hd he hfields => ?_⟩
  · by_contra ht
    rw [ofFields_toFields_of_signed hseen ht] at hread
    cases hread
  · have hread := ofFields_toFields_of_storable (d := d) fun _ => hd
    rw [hfields, ofFields_toFields_of_storable fun _ => he] at hread
    exact (Except.ok.inj hread).symm

end Device

end LorawanRouting
