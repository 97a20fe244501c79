import LorawanRouting.Proofs.DeviceFields

/-!
Maps of stored texts. A map is read as the device each of whose fields is read from its own text,
whatever the other texts are; laying the texts of some fields over a map copies these fields.
-/

namespace LorawanRouting

theorem FieldMap.getElem?_overlay (base top : FieldMap) (name : String) :
    (base.overlay top)[name]? = top[name]?.or base[name]? := by
  apply Option.ext
  intro v
  have hnodup := (OrderedMaps.ascending_toList top).nodup_map
  rw [overlay, OrderedMaps.getElem?_foldl_insert hnodup]
  simp only [Std.ExtTreeMap.mem_toList_iff_getElem?_eq_some]
  cases top[name]? <;> simp

namespace Device

variable {d e : Device} {f g : DeviceField}

theorem getElem?_foldl_encode (d : Device) (fs : List DeviceField) (m : FieldMap)
    (f : DeviceField) :
    (fs.foldl (fun m f => m.insert f.name (d.encodeField f)) m)[f.name]? =
      if f ∈ fs then some (d.encodeField f) else m[f.name]? := by
  induction fs generalizing m with
  | nil => rfl
  | cons g fs ih =>
    rw [List.foldl_cons, ih, Std.ExtTreeMap.getElem?_insert]
    by_cases hg : g = f
    · simp [hg]
    · have hcmp : ¬ compare g.name f.name = .eq := fun h =>
        hg (DeviceField.name_injective (Std.LawfulEqCmp.eq_of_compare h))
      simp [hcmp, Ne.symm hg]

def readEntry (d : Device) (entry : String × String) : Except StoreError Device :=
  match DeviceField.ofName? entry.1 with
  | some f => d.decodeField f entry.2
  | none => .ok d

theorem ofFields_eq_foldlM (m : FieldMap) : ofFields m = m.toList.foldlM readEntry blank := rfl

theorem readEntry_of_unknown {name : String} (h : ∀ f : DeviceField, f.name ≠ name) (d : Device)
    (v : String) : d.readEntry (name, v) = .ok d := by
  have hname : DeviceField.ofName? name = none := by
    cases hn : DeviceField.ofName? name with
    | none => rfl
    | some f => exact absurd (DeviceField.ofName?_eq_some.mp hn) (h f)
  simp [readEntry, hname]

theorem readEntry_name (d : Device) (f : DeviceField) (v : String) :
    d.readEntry (f.name, v) = d.decodeField f v := by
  simp [readEntry, DeviceField.ofName?_eq_some.mpr rfl]

theorem readEntry_eq_ok_iff (h : SameAt d blank f) (v : String) :
    d.readEntry (f.name, v) = .ok e ↔ Reads v f e ∧ ∀ g, g ≠ f → SameAt e d g := by
  rw [readEntry_name, decodeField_eq_map h]
  cases hb : blank.decodeField f v with
  | error err =>
    constructor
    · intro herr
      cases herr
    · rintro ⟨hreads, -⟩
      rw [Reads, hb] at hreads
      cases hreads
  | ok b =>
    rw [reads_iff_sameAt hb]
    constructor
    · intro hok
      obtain rfl := Except.ok.inj hok
      exact ⟨(sameAt_copyField d b f).symm, fun g hg => sameAt_copyField_of_ne hg⟩
    · intro hread
      obtain ⟨hf, hother⟩ := hread
      refine congrArg Except.ok (ext_sameAt fun g => ?_)
      by_cases hg : g = f
      · subst hg
        exact (sameAt_copyField d b g).trans hf
      · exact (sameAt_copyField_of_ne hg).trans (hother g hg).symm

theorem foldlM_readEntry {l : List (String × String)} (hl : (l.map Prod.fst).Nodup) {d : Device}
    (hd : ∀ f v, (f.name, v) ∈ l → SameAt d blank f) :
    l.foldlM readEntry d = .ok e ↔
      (∀ f v, (f.name, v) ∈ l → Reads v f e) ∧ ∀ f, (∀ v, (f.name, v) ∉ l) → SameAt e d f := by
  induction l generalizing d with
  | nil =>
    constructor
    · intro h
      have hde : d = e := Except.ok.inj h
      exact ⟨by simp, fun f _ => hde ▸ SameAt.refl d f⟩
    · rintro ⟨-, h⟩
      exact congrArg Except.ok (ext_sameAt fun f => (h f (by simp)).symm)
  | cons entry l ih =>
    obtain ⟨name, v⟩ := entry
    obtain ⟨hhead, htail⟩ := List.nodup_cons.mp hl
    have hname : ∀ w, (name, w) ∉ l := fun w hw => hhead (List.mem_map.mpr ⟨_, hw, rfl⟩)
    rw [List.foldlM_cons]
    by_cases hknown : ∃ f : DeviceField, f.name = name
    · obtain ⟨f, rfl⟩ := hknown
      have hne : ∀ g w, (g.name, w) ∈ l → g ≠ f := by
        rintro g w hw rfl
        exact hname w hw
      -- Reading this entry leaves the fields of the entries after it blank.
      have hrest : ∀ {d'}, (∀ g, g ≠ f → SameAt d' d g) →
          ∀ g w, (g.name, w) ∈ l → SameAt d' blank g := fun hother g w hw =>
        (hother g (hne g w hw)).trans (hd g w (by simp [hw]))
      constructor
      · intro h
        cases hr : d.readEntry (f.name, v) with
        | error err =>
          rw [hr] at h
          cases h
        | ok d' =>
          rw [hr] at h
          obtain ⟨hf, hother⟩ := (readEntry_eq_ok_iff (hd f v (by simp)) v).mp hr
          obtain ⟨hreads, hsame⟩ := (ih htail (hrest hother)).mp h
          refine ⟨fun g w hw => ?_, fun g hg => ?_⟩
          · rcases List.mem_cons.mp hw with heq | hw
            · obtain ⟨hgf, rfl⟩ := Prod.mk.inj heq
              obtain rfl := DeviceField.name_injective hgf
              exact hf.congr (hsame g hname).symm
            · exact hreads g w hw
          · have hgf : g ≠ f := by
              rintro rfl
              exact hg v (by simp)
            exact (hsame g fun w hw => hg w (by simp [hw])).trans (hother g hgf)
      · intro h
        obtain ⟨hreads, hsame⟩ := h
        have hother : ∀ g, g ≠ f → SameAt (d.copyField e f) d g := fun g hg =>
          sameAt_copyField_of_ne hg
        have hf := (hreads f v (by simp)).congr (sameAt_copyField d e f).symm
        rw [(readEntry_eq_ok_iff (hd f v (by simp)) v).mpr ⟨hf, hother⟩]
        refine (ih htail (hrest hother)).mpr ⟨fun g w hw => hreads g w (by simp [hw]), fun g hg => ?_⟩
        by_cases hgf : g = f
        · subst hgf
          exact (sameAt_copyField d e g).symm
        · have hcons : ∀ w, (g.name, w) ∉ (f.name, v) :: l := by
            intro w hw
            rcases List.mem_cons.mp hw with heq | hw
            · exact hgf (DeviceField.name_injective (Prod.mk.inj heq).1)
            · exact hg w hw
          exact (hsame g hcons).trans (hother g hgf).symm
    · have hunknown : ∀ f : DeviceField, f.name ≠ name := fun f hf => hknown ⟨f, hf⟩
      rw [readEntry_of_unknown hunknown]
      refine (ih htail fun f w hw => hd f w (by simp [hw])).trans ?_
      simp [hunknown]

def textIn (m : FieldMap) (f : DeviceField) : String := m[f.name]?.getD ""

theorem ofFields_eq_ok_iff {m : FieldMap} : ofFields m = .ok e ↔ ∀ f, Reads (textIn m f) f e := by
  have hnodup := (OrderedMaps.ascending_toList m).nodup_map
  rw [ofFields_eq_foldlM, foldlM_readEntry hnodup fun f _ _ => SameAt.refl blank f]
  simp only [Std.ExtTreeMap.mem_toList_iff_getElem?_eq_some]
  constructor
  · intro h f
    obtain ⟨hreads, hsame⟩ := h
    cases hf : m[f.name]? with
    | none =>
      rw [textIn, hf]
      exact reads_empty_iff.mpr (hsame f (by simp [hf]))
    | some v =>
      rw [textIn, hf]
      exact hreads f v hf
  · intro h
    refine ⟨fun f v hf => ?_, fun f hf => ?_⟩
    · have hv := h f
      rwa [textIn, hf] at hv
    · have hv := h f
      rw [textIn, Option.eq_none_iff_forall_ne_some.mpr hf] at hv
      exact reads_empty_iff.mp hv

theorem ofFields_overlay {m : FieldMap} {fs : List DeviceField} {top : FieldMap}
    (hm : ofFields m = .ok e)
    (htop : ∀ f, top[f.name]? = if f ∈ fs then some (d.encodeField f) else none)
    (hfs : ∀ f ∈ fs, Storable d f) : ofFields (m.overlay top) = .ok (e.copyFields d fs) := by
  rw [ofFields_eq_ok_iff] at hm ⊢
  intro f
  have hsame := sameAt_copyFields e d fs f
  have htext : textIn (m.overlay top) f = if f ∈ fs then d.encodeField f else textIn m f := by
    rw [textIn, FieldMap.getElem?_overlay, htop]
    by_cases hf : f ∈ fs <;> simp [hf, textIn]
  rw [htext]
  by_cases hf : f ∈ fs
  · rw [if_pos hf] at hsame ⊢
    exact (reads_encodeField (hfs f hf)).congr hsame.symm
  · rw [if_neg hf] at hsame ⊢
    exact (hm f).congr hsame.symm

end Device

end LorawanRouting
