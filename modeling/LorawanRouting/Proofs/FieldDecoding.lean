import LorawanRouting.Proofs.RecordTexts

/-!
Maps of stored texts, field by field. Each field of the device is what its own text gives a blank
device, and the error is that of the first text, in the order of the names, that cannot be read.
Reading one text changes its own field or nothing.
-/

namespace LorawanRouting.Device

variable {d e : Device} {f g : DeviceField} {v : String} {m : FieldMap} {err : StoreError}

theorem sameAt_decodeField_of_ne (h : d.decodeField f v = .ok e) (hg : g ≠ f) : SameAt e d g := by
  rw [decodeField_eq] at h
  split at h
  · obtain rfl := Except.ok.inj h
    exact SameAt.refl d g
  · cases hread : blank.readField? v f with
    | none => simp [hread] at h
    | some b =>
      simp only [hread] at h
      obtain rfl := Except.ok.inj h
      exact sameAt_copyField_of_ne hg

theorem run_assign {α : Type} (f : DeviceField) (v : String) (read : Option α)
    (put : α → Device → Device) (d : Device) :
    (assign f v read put).run.run d = match read.map fun a => put a d with
      | some e => (.ok (), e)
      | none => (.error (.invalidField f.name v), d) := by
  cases read <;> rfl

theorem run_readInto (f : DeviceField) (v : String) (d : Device) :
    (readInto f v).run.run d = match d.readField? v f with
      | some e => (.ok (), e)
      | none => (.error (.invalidField f.name v), d) := by
  cases f <;> exact run_assign ..

theorem decodeInPlace_eq (d : Device) (f : DeviceField) (v : String) : d.decodeInPlace f v =
    match d.decodeField f v with
    | .ok e => ⟨.ok (), e⟩
    | .error err => ⟨.error err, d⟩ := by
  rw [decodeInPlace, decodeField, run_readInto]
  by_cases hv : v = ""
  · simp [hv]
  · cases hread : d.readField? v f <;> simp [hv]

/-- A field is what its own text gives a blank device, and blank if it has no text. -/
def GivenBy (m : FieldMap) (d : Device) (f : DeviceField) : Prop :=
  match m[f.name]? with
  | some v => ∃ b, blank.decodeField f v = .ok b ∧ SameAt d b f
  | none => SameAt d blank f

/-- The first text, in the order of the names, that cannot be read. -/
structure FirstRefused (m : FieldMap) (f : DeviceField) (v : String) : Prop where
  stored : m[f.name]? = some v
  refused : blank.decodeField f v = .error (.invalidField f.name v)
  before : ∀ g w, m[g.name]? = some w → g.name < f.name → ∃ b, blank.decodeField g w = .ok b

theorem givenBy_iff_reads : GivenBy m d f ↔ Reads (textIn m f) f d := by
  rw [GivenBy, textIn]
  cases m[f.name]? with
  | none => exact reads_empty_iff.symm
  | some v =>
    constructor
    · rintro ⟨b, hb, hsame⟩
      exact (reads_iff_sameAt hb).mpr hsame.symm
    · intro hreads
      exact ⟨_, hreads, (sameAt_copyField blank d f).symm⟩

theorem ofFields_eq_ok_iff_givenBy : ofFields m = .ok d ↔ ∀ f, GivenBy m d f := by
  simp only [ofFields_eq_ok_iff, givenBy_iff_reads]

theorem exists_firstRefused (h : ofFields m = .error err) :
    ∃ f v, FirstRefused m f v ∧ err = .invalidField f.name v := by
  rw [ofFields_eq_foldlM] at h
  obtain ⟨before, f, v, after, hl, hbefore, rfl, hrefused⟩ := foldlM_readEntry_error h
  have hmem : (f.name, v) ∈ m.toList := by simp [hl]
  refine ⟨f, v, ⟨Std.ExtTreeMap.mem_toList_iff_getElem?_eq_some.mp hmem, hrefused, ?_⟩, rfl⟩
  intro g w hw hlt
  have hsorted := OrderedMaps.ascending_toList m
  have hentry := Std.ExtTreeMap.mem_toList_iff_getElem?_eq_some.mpr hw
  rw [hl] at hsorted hentry
  -- the entry of a smaller name comes before
  rcases List.mem_append.mp hentry with hentry | hentry
  · exact hbefore g w hentry
  · exfalso
    rcases List.mem_cons.mp hentry with heq | hentry
    · rw [(Prod.mk.inj heq).1] at hlt
      exact String.lt_irrefl _ hlt
    · have hgreater : compare f.name g.name = .lt :=
        List.rel_of_pairwise_cons (List.pairwise_append.mp hsorted).2.1 hentry
      exact String.lt_irrefl _ (String.lt_trans hlt (compareOfLessAndEq_eq_lt.mp hgreater))

theorem FirstRefused.not_lt {w : String} (h : FirstRefused m f v) (h' : FirstRefused m g w) :
    ¬ f.name < g.name := by
  intro hlt
  obtain ⟨b, hb⟩ := h'.before f v h.stored hlt
  rw [h.refused] at hb
  cases hb

theorem FirstRefused.unique {w : String} (h : FirstRefused m f v) (h' : FirstRefused m g w) :
    f = g ∧ v = w := by
  have hname : f.name = g.name :=
    String.le_antisymm (String.not_lt.mp (h'.not_lt h)) (String.not_lt.mp (h.not_lt h'))
  obtain rfl := DeviceField.name_injective hname
  exact ⟨rfl, Option.some.inj (h.stored.symm.trans h'.stored)⟩

theorem ofFields_eq_error_iff :
    ofFields m = .error err ↔ ∃ f v, FirstRefused m f v ∧ err = .invalidField f.name v := by
  refine ⟨exists_firstRefused, ?_⟩
  rintro ⟨f, v, hfirst, rfl⟩
  cases hread : ofFields m with
  | ok d =>
    obtain ⟨b, hb⟩ := exists_ofFields_iff.mp ⟨d, hread⟩ f v hfirst.stored
    rw [hfirst.refused] at hb
    cases hb
  | error err =>
    obtain ⟨g, w, hfirst', rfl⟩ := exists_firstRefused hread
    obtain ⟨rfl, rfl⟩ := hfirst.unique hfirst'
    rfl

theorem FirstRefused.congr {m' : FieldMap} (h : FirstRefused m f v)
    (hm : ∀ f : DeviceField, m'[f.name]? = m[f.name]?) : FirstRefused m' f v where
  stored := (hm f).trans h.stored
  refused := h.refused
  before g w hw := h.before g w ((hm g).symm.trans hw)

theorem ofFields_congr {m' : FieldMap} (hm : ∀ f : DeviceField, m'[f.name]? = m[f.name]?) :
    ofFields m' = ofFields m := by
  cases hread : ofFields m with
  | ok d =>
    rw [ofFields_eq_ok_iff] at hread ⊢
    intro f
    rw [textIn, hm f]
    exact hread f
  | error err =>
    obtain ⟨f, v, hfirst, herr⟩ := ofFields_eq_error_iff.mp hread
    exact ofFields_eq_error_iff.mpr ⟨f, v, hfirst.congr hm, herr⟩

/-- When a map can be read, what it gives, what is refused first, and what one text can change. -/
theorem fields_decode_apart :
    (∀ m : FieldMap,
      ((∃ d, ofFields m = .ok d) ↔
        ∀ f v, m[DeviceField.name f]? = some v → ∃ b, blank.decodeField f v = .ok b) ∧
      (∀ d, ofFields m = .ok d ↔ ∀ f, GivenBy m d f) ∧
      (∀ err, ofFields m = .error err ↔
        ∃ f v, FirstRefused m f v ∧ err = .invalidField f.name v) ∧
      ∀ m' : FieldMap, (∀ f : DeviceField, m'[f.name]? = m[f.name]?) → ofFields m' = ofFields m) ∧
    ∀ (d : Device) (f : DeviceField) (v : String),
      (∀ e, d.decodeInPlace f v = ⟨.ok (), e⟩ ↔ d.decodeField f v = .ok e) ∧
      (∀ e, d.decodeField f v = .ok e → ∀ g, g ≠ f → SameAt e d g) ∧
      d.decodeField f "" = .ok d ∧
      ∀ err, (d.decodeInPlace f v).answer = .error err →
        d.decodeInPlace f v = ⟨.error (.invalidField f.name v), d⟩ := by
  refine ⟨fun m => ⟨exists_ofFields_iff, fun d => ofFields_eq_ok_iff_givenBy,
    fun err => ofFields_eq_error_iff, fun m' hm => ofFields_congr hm⟩,
    fun d f v => ⟨fun e => ?_, fun e he g hg => sameAt_decodeField_of_ne he hg, ?_,
      fun err herr => ?_⟩⟩
  · rw [decodeInPlace_eq]
    cases d.decodeField f v <;> simp
  · simp [decodeField]
  · rw [decodeInPlace_eq] at herr ⊢
    cases hread : d.decodeField f v with
    | ok e =>
      rw [hread] at herr
      cases herr
    | error cause => rw [(decodeField_error hread).1]

theorem fields_decode_apart_of_two_bad_texts :
    let m : FieldMap := ((∅ : FieldMap).insert "options" "none").insert "f_cnt_up" "-1"
    let d : Device := { blank with counterUp := 7 }
    ofFields m = .error (.invalidField "f_cnt_up" "-1") ∧
      ofFields (m.insert "color" "red") = ofFields m ∧
      (d.decodeInPlace .counterUp "-1").answer = .error (.invalidField "f_cnt_up" "-1") ∧
      (d.decodeInPlace .counterUp "-1").state = d := by
  intro m d
  obtain ⟨hmaps, hfields⟩ := fields_decode_apart
  obtain ⟨-, -, herror, hcongr⟩ := hmaps m
  have hrefused : blank.decodeField .counterUp "-1" = .error (.invalidField "f_cnt_up" "-1") := by
    decide +kernel
  have hfirst : FirstRefused m .counterUp "-1" := by
    refine ⟨by simp [m, DeviceField.name], hrefused, fun g w hw hlt => ?_⟩
    cases g <;> first | exact absurd hlt (by decide) | simp [m, DeviceField.name] at hw
  have hanswer : (d.decodeInPlace .counterUp "-1").answer =
      .error (.invalidField "f_cnt_up" "-1") := by decide +kernel
  refine ⟨(herror _).mpr ⟨_, _, hfirst, rfl⟩, hcongr _ fun f => ?_, hanswer, ?_⟩
  · have hcolor : ¬ compare "color" f.name = .eq := by cases f <;> decide
    rw [Std.ExtTreeMap.getElem?_insert, if_neg hcolor]
  · exact congrArg Reply.state ((hfields d .counterUp "-1").2.2.2 _ hanswer)

end LorawanRouting.Device
