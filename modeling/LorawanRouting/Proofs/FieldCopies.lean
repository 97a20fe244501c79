import LorawanRouting.Proofs.FieldDecoding

/-!
Fields that are written as texts and fields that are copied. Laying the texts of some fields of a device
over a map changes the device that is read from the map as copying these fields does, in whatever order
and however often the fields are named and whatever texts they had before.
-/

namespace LorawanRouting.Device
open DeviceField (orAll)

variable {d e : Device} {fields others : List DeviceField} {m base : FieldMap}

theorem copyFields_congr (h : ∀ f, f ∈ others ↔ f ∈ fields) (e d : Device) :
    e.copyFields d others = e.copyFields d fields := by
  refine ext_sameAt fun f => ?_
  have hothers := sameAt_copyFields e d others f
  simp only [h f] at hothers
  exact hothers.trans (sameAt_copyFields e d fields f).symm

theorem getElem?_toFields_name (d : Device) (fields : List DeviceField) (f : DeviceField) :
    (d.toFields fields)[f.name]? = if f ∈ orAll fields then some (d.encodeField f) else none := by
  rw [toFields, getElem?_foldl_encode, Std.ExtTreeMap.getElem?_empty]

theorem getElem?_overlay_toFields (m : FieldMap) (d : Device) (fields : List DeviceField)
    (f : DeviceField) : (m.overlay (d.toFields fields))[f.name]? =
      if f ∈ orAll fields then some (d.encodeField f) else m[f.name]? := by
  rw [FieldMap.getElem?_overlay, getElem?_toFields_name]
  by_cases hf : f ∈ orAll fields <;> simp [hf]

theorem ofFields_overlay_congr (hfields : ∀ f, f ∈ orAll others ↔ f ∈ orAll fields)
    (hbase : ∀ f, f ∉ orAll fields → base[f.name]? = m[f.name]?) (d : Device) :
    ofFields (base.overlay (d.toFields others)) = ofFields (m.overlay (d.toFields fields)) := by
  refine ofFields_congr fun f => ?_
  simp only [getElem?_overlay_toFields, hfields f]
  by_cases hf : f ∈ orAll fields
  · simp only [hf, if_true]
  · simp only [hf, if_false, hbase f hf]

/-- Writing the texts of fields over a map and copying the fields come to the same device, however the
fields are listed and whatever the map holds under their names and under unknown ones. -/
theorem written_fields_are_copied (hm : ofFields m = .ok e)
    (hseen : .lastSeen ∈ orAll fields → ∀ t ∈ d.lastSeen, Rfc3339.HasPlainYear t) :
    ofFields (m.overlay (d.toFields fields)) = .ok (e.copyFields d (orAll fields)) ∧
    ∀ (others : List DeviceField) (base : FieldMap), (∀ f, f ∈ orAll others ↔ f ∈ orAll fields) →
      (∀ f, f ∉ orAll fields → base[f.name]? = m[f.name]?) →
      ofFields (base.overlay (d.toFields others)) = .ok (e.copyFields d (orAll fields)) ∧
        e.copyFields d (orAll others) = e.copyFields d (orAll fields) := by
  have hstorable : ∀ f ∈ orAll fields, d.Storable f := by
    rintro f hf rfl
    exact hseen hf
  have hwritten : ofFields (m.overlay (d.toFields fields)) = .ok (e.copyFields d (orAll fields)) :=
    ofFields_overlay hm (getElem?_toFields_name d fields) hstorable
  refine ⟨hwritten, fun others base hothers hbase => ⟨?_, copyFields_congr hothers e d⟩⟩
  rw [ofFields_overlay_congr hothers hbase, hwritten]

theorem written_fields_are_copied_over_address :
    let m : FieldMap := ((∅ : FieldMap).insert "f_cnt_up" "+7").insert "dev_addr" "26000001"
    let d : Device := { blank with
      counterUp := 3, lastSeen := some ⟨59, 1500000000, by decide, by decide⟩ }
    let fields : List DeviceField := [.address, .lastSeen, .address]
    let base : FieldMap := ((∅ : FieldMap).insert "color" "red").insert "f_cnt_up" "+7"
    ofFields m = .ok { blank with counterUp := 7, address := ⟨[0x26, 0, 0, 1], rfl⟩ } ∧
      ofFields (m.overlay (d.toFields fields)) = .ok { d with counterUp := 7 } ∧
      ofFields (base.overlay (d.toFields [.lastSeen, .address])) = .ok { d with counterUp := 7 } := by
  intro m d fields base
  have hm : ofFields m = .ok { blank with counterUp := 7, address := ⟨[0x26, 0, 0, 1], rfl⟩ } := by
    decide +kernel
  have hseen : .lastSeen ∈ orAll fields → ∀ t ∈ d.lastSeen, Rfc3339.HasPlainYear t := by
    intro _ t ht
    obtain rfl := Option.some.inj ht
    decide
  obtain ⟨hwritten, hothers⟩ := written_fields_are_copied hm hseen
  refine ⟨hm, hwritten, (hothers [.lastSeen, .address] base (fun f => ?_) fun f hf => ?_).1⟩
  · cases f <;> decide
  · cases f <;> first
      | exact absurd (by decide) hf
      | simp [m, base, DeviceField.name, Std.ExtTreeMap.getElem_insert]

end LorawanRouting.Device
