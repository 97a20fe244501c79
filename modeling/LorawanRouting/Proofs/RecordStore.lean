import LorawanRouting.Proofs.DeviceCalls
import LorawanRouting.Proofs.DeviceIndex

/-!
Devices over a lawful backend. The contents of the backend represent a table: there is a record for
each device and for nothing else, and it reads as that device. So the store answers like the table.
-/

namespace LorawanRouting
open OrderedMaps (Ascending)

namespace Device

variable {d e : Device} {f : DeviceField}

theorem encodeField_congr (h : SameAt d e f) : d.encodeField f = e.encodeField f := by
  cases f <;> simp_all [SameAt, encodeField]

theorem encodeField_address_eq_text {a : DevAddr} (ha : ¬ a.isZero) :
    d.encodeField .address = a.text ↔ d.address = a := by
  rw [encodeField]
  split
  case isTrue hz =>
    constructor
    · intro h
      exact absurd h.symm (Identifier.text_ne_empty a)
    · intro h
      exact absurd (h ▸ hz) ha
  case isFalse => exact Identifier.text_injective.eq_iff

theorem storable_storedFields {fields : List DeviceField}
    (hfields : ∀ f ∈ DeviceField.orAll fields, d.Storable f) :
    ∀ f ∈ RecordStore.storedFields fields, d.Storable f := by
  intro f hf
  rcases List.mem_append.mp hf with hf | hf
  · exact hfields f hf
  · intro hseen
    rw [hseen] at hf
    exact absurd hf (by decide)

theorem ofFields_overlay_fieldsToStore {m : FieldMap} {e' : Device} {fields : List DeviceField}
    (hm : ofFields m = .ok e) (hkey : e'.key = d.key)
    (hsame : ∀ f, f ≠ .app → f ≠ .dev → SameAt e e' f)
    (hfields : ∀ f ∈ DeviceField.orAll fields, d.Storable f) :
    ofFields (m.overlay (RecordStore.fieldsToStore d (DeviceField.orAll fields))) =
      .ok (e'.copyFields d (DeviceField.orAll fields)) := by
  rw [ofFields_overlay hm (RecordStore.getElem?_fieldsToStore d fields)
    (storable_storedFields hfields)]
  refine congrArg Except.ok (ext_sameAt fun f => ?_)
  have hleft := sameAt_copyFields e d (RecordStore.storedFields fields) f
  have hright := sameAt_copyFields e' d (DeviceField.orAll fields) f
  have happ : SameAt e' d .app := congrArg DeviceKey.app hkey
  have hdev : SameAt e' d .dev := congrArg DeviceKey.dev hkey
  by_cases hf : f ∈ DeviceField.orAll fields
  · have hmem : f ∈ RecordStore.storedFields fields := List.mem_append_left _ hf
    rw [if_pos hmem] at hleft
    rw [if_pos hf] at hright
    exact hleft.trans hright.symm
  · rw [if_neg hf] at hright
    by_cases hid : f = .app ∨ f = .dev
    · have hmem : f ∈ RecordStore.storedFields fields := by simp [RecordStore.storedFields, hid]
      rw [if_pos hmem] at hleft
      rcases hid with rfl | rfl
      · exact hleft.trans (hright.trans happ).symm
      · exact hleft.trans (hright.trans hdev).symm
    · have hmem : f ∉ RecordStore.storedFields fields := by
        simpa [RecordStore.storedFields, hf] using hid
      rw [if_neg hmem] at hleft
      rw [not_or] at hid
      exact hleft.trans ((hsame f hid.1 hid.2).trans hright.symm)

end Device

namespace Contents
open RecordStore (deviceKey addressKey)

variable {c : Contents} {t : DeviceTable} {key : DeviceKey} {d : Device}

structure Stores (m : FieldMap) (d : Device) : Prop where
  nonempty : m.isEmpty = false
  read : Device.ofFields m = .ok d
  address : Device.textIn m .address = d.encodeField .address

/-- There is a record for each device of a table and for nothing else. -/
structure Represents (c : Contents) (t : DeviceTable) : Prop where
  sound : c.Sound
  keyed : t.Keyed
  absent : ∀ {key}, t.devices[key]? = none → c.record (deviceKey key) = ∅
  present : ∀ {key d}, t.devices[key]? = some d → Stores (c.record (deviceKey key)) d

theorem represents_empty : empty.Represents .empty where
  sound := sound_empty
  keyed := DeviceTable.keyed_empty
  absent _ := rfl
  present h := by simp [DeviceTable.empty] at h

theorem stores_overlay {m : FieldMap} {e e' : Device} {fields : List DeviceField}
    (hm : Device.ofFields m = .ok e) (haddress : Device.textIn m .address = e.encodeField .address)
    (hkey : e'.key = d.key) (hsame : ∀ f, f ≠ .app → f ≠ .dev → Device.SameAt e e' f)
    (hfields : ∀ f ∈ DeviceField.orAll fields, d.Storable f) :
    Stores (m.overlay (RecordStore.fieldsToStore d (DeviceField.orAll fields)))
      (e'.copyFields d (DeviceField.orAll fields)) where
  nonempty := RecordStore.isEmpty_overlay_fieldsToStore m d fields
  read := Device.ofFields_overlay_fieldsToStore hm hkey hsame hfields
  address := by
    have hcopied := Device.encodeField_congr
      (Device.sameAt_copyFields e' d (DeviceField.orAll fields) .address)
    have hold := Device.encodeField_congr (hsame .address (by decide) (by decide))
    rw [RecordStore.textIn_overlay_fieldsToStore, hcopied]
    by_cases hnamed : .address ∈ DeviceField.orAll fields
    · rw [if_pos hnamed, if_pos (RecordStore.address_mem_storedFields.mpr hnamed)]
    · rw [if_neg hnamed, if_neg (mt RecordStore.address_mem_storedFields.mp hnamed), haddress, hold]

theorem Represents.set (h : c.Represents t) {fields : List DeviceField}
    (hfields : ∀ f ∈ DeviceField.orAll fields, d.Storable f) :
    (c.set d fields).Represents (t.set d fields) := by
  have hself : Stores ((c.record (deviceKey d.key)).overlay
      (RecordStore.fieldsToStore d (DeviceField.orAll fields)))
        ((t.device d.key).copyFields d (DeviceField.orAll fields)) := by
    have hkey := h.keyed.key_device d.key
    rw [DeviceTable.device] at hkey ⊢
    cases hd : t.devices[d.key]? with
    | none =>
      -- Reading no texts gives a blank device, which differs from a new one in its identities only.
      rw [h.absent hd]
      refine stores_overlay (e := .blank) rfl rfl rfl (fun f happ hdev => ?_) hfields
      cases f <;> first | rfl | contradiction
    | some e =>
      rw [hd] at hkey
      have he := h.present hd
      exact stores_overlay he.read he.address hkey (fun f _ _ => Device.SameAt.refl e f) hfields
  refine ⟨h.sound.set d fields, h.keyed.set d fields, fun {key} hkey => ?_, fun {key e} he => ?_⟩
  · rw [DeviceTable.getElem?_set] at hkey
    split at hkey
    · cases hkey
    case isFalse hne =>
      rw [record_set, Function.update_of_ne (RecordStore.deviceKey_injective.ne (Ne.symm hne))]
      exact h.absent hkey
  · rw [DeviceTable.getElem?_set] at he
    split at he
    case isTrue heq =>
      obtain rfl := Option.some.inj he
      rw [record_set, ← heq, Function.update_self]
      exact hself
    case isFalse hne =>
      rw [record_set, Function.update_of_ne (RecordStore.deviceKey_injective.ne (Ne.symm hne))]
      exact h.present he

theorem Represents.delete (h : c.Represents t) (key : DeviceKey) :
    (c.delete key).Represents ⟨t.devices.erase key⟩ := by
  refine ⟨h.sound.delete key, h.keyed.erase key, fun {k} hk => ?_, fun {k e} he => ?_⟩
  · rw [record_delete]
    by_cases hne : k = key
    · rw [hne, Function.update_self]
    · rw [Function.update_of_ne (RecordStore.deviceKey_injective.ne hne)]
      rw [Std.ExtTreeMap.getElem?_erase, if_neg (by simpa using Ne.symm hne)] at hk
      exact h.absent hk
  · rw [Std.ExtTreeMap.getElem?_erase] at he
    split at he
    · cases he
    case isFalse hne =>
      have hne : k ≠ key := by
        rintro rfl
        exact hne Std.ReflCmp.compare_self
      rw [record_delete, Function.update_of_ne (RecordStore.deviceKey_injective.ne hne)]
      exact h.present he

theorem Represents.mem_members (h : c.Represents t) {a : DevAddr} (ha : ¬ a.isZero) {k : String} :
    k ∈ c.members (addressKey a.text) ↔
      ∃ d : Device, deviceKey d.key = k ∧ t.devices[d.key]? = some d ∧ d.address = a := by
  rw [h.sound.indexed, address]
  constructor
  · rintro ⟨-, htext⟩
    by_cases hnamed : ∃ key, deviceKey key = k
    · obtain ⟨key, rfl⟩ := hnamed
      cases hd : t.devices[key]? with
      | none =>
        rw [h.absent hd] at htext
        exact absurd htext.symm (Identifier.text_ne_empty a)
      | some d =>
        obtain rfl := h.keyed hd
        rw [(h.present hd).address, Device.encodeField_address_eq_text ha] at htext
        exact ⟨d, rfl, hd, htext⟩
    · rw [h.sound.named k fun key hkey => hnamed ⟨key, hkey⟩] at htext
      exact absurd htext.symm (Identifier.text_ne_empty a)
  · rintro ⟨d, rfl, hd, haddress⟩
    refine ⟨Identifier.text_ne_empty a, ?_⟩
    rw [(h.present hd).address, Device.encodeField_address_eq_text ha]
    exact haddress

end Contents

namespace RecordStore

variable {σ : Type} [Backend σ]

theorem loadAll_of_readable {s : RecordStore σ} {ks : List String}
    (h : ∀ k ∈ ks, ∃ d : Device, deviceKey d.key = k ∧ s.load k = .ok (some d)) :
    ∃ ds, s.loadAll ks = .ok ds ∧ ds.map (fun d => deviceKey d.key) = ks ∧
      ∀ d ∈ ds, s.load (deviceKey d.key) = .ok (some d) := by
  induction ks with
  | nil => exact ⟨[], rfl, rfl, by simp⟩
  | cons k ks ih =>
    obtain ⟨d, rfl, hd⟩ := h k (by simp)
    obtain ⟨ds, hload, hkeys, hds⟩ := ih fun k hk => h k (by simp [hk])
    refine ⟨d :: ds, ?_, ?_, ?_⟩
    · rw [loadAll, hd, hload]
      rfl
    · rw [List.map_cons, hkeys]
    · intro e he
      rcases List.mem_cons.mp he with rfl | he
      · exact hd
      · exact hds e he

theorem ascending_sortByKey {ds : List Device} (h : (ds.map Device.key).Nodup) :
    Ascending Device.key (sortByKey ds) := by
  have htrans : ∀ x y z : Device, (compare x.key y.key).isLE → (compare y.key z.key).isLE →
      (compare x.key z.key).isLE := fun _ _ _ => Std.TransCmp.isLE_trans
  have htotal : ∀ x y : Device, (compare x.key y.key).isLE || (compare y.key x.key).isLE := by
    intro x y
    have hswap : compare y.key x.key = (compare x.key y.key).swap := Std.OrientedCmp.eq_swap
    rw [hswap]
    cases compare x.key y.key <;> rfl
  have hsorted := List.pairwise_mergeSort htrans htotal ds
  have hnodup : ((sortByKey ds).map Device.key).Nodup :=
    ((List.mergeSort_perm ds _).map Device.key).nodup_iff.mpr h
  refine (hsorted.and (List.pairwise_map.mp hnodup)).imp ?_
  intro x y hxy
  cases hcmp : compare x.key y.key with
  | lt => rfl
  | eq => exact absurd (Std.LawfulEqCmp.eq_of_compare hcmp) hxy.2
  | gt =>
    have hle := hxy.1
    rw [hcmp] at hle
    cases hle

variable {s : σ} {c : Contents}

theorem set_eq_apply {d : Device} (hfield : Backend.field s (deviceKey d.key)
    DeviceField.address.name = .ok (c.record (deviceKey d.key))[DeviceField.address.name]?)
    (fields : List DeviceField) :
    set (⟨s⟩ : RecordStore σ) d fields = apply ⟨s⟩ (c.setWrites d fields) := by
  rw [set, Contents.setWrites]
  split
  · simp only [hfield]
    rfl
  · rfl

theorem delete_eq_apply {key : DeviceKey}
    (hfields : Backend.fields s (deviceKey key) = .ok (c.record (deviceKey key)))
    (hrecord : (c.record (deviceKey key)).isEmpty = false) :
    delete (⟨s⟩ : RecordStore σ) key = apply ⟨s⟩ (c.deleteWrites key) := by
  simp only [delete, hfields, hrecord]
  rfl

variable [LawfulBackend σ] {t : DeviceTable}

theorem load_deviceKey (hs : LawfulBackend.Holds s c) (h : c.Represents t) (key : DeviceKey) :
    load (⟨s⟩ : RecordStore σ) (deviceKey key) = .ok t.devices[key]? := by
  simp only [load, LawfulBackend.fields hs]
  cases hd : t.devices[key]? with
  | none =>
    rw [h.absent hd]
    rfl
  | some d =>
    have hstored := h.present hd
    rw [if_neg (by simp [hstored.nonempty]), hstored.read]
    rfl

theorem byAddress_eq_holders (hs : LawfulBackend.Holds s c) (h : c.Represents t) (a : DevAddr) :
    byAddress (⟨s⟩ : RecordStore σ) a = .ok (t.holders a) := by
  by_cases ha : a.isZero
  · have hnone : t.holders a = [] := by simp [DeviceTable.holders, ha]
    rw [byAddress, if_pos ha, hnone]
  · have hreadable : ∀ k ∈ (c.members (addressKey a.text)).toList, ∃ d : Device,
        deviceKey d.key = k ∧ load (⟨s⟩ : RecordStore σ) k = .ok (some d) := by
      intro k hk
      obtain ⟨d, rfl, hd, -⟩ := (h.mem_members ha).mp (Std.ExtTreeSet.mem_toList.mp hk)
      exact ⟨d, rfl, (load_deviceKey hs h d.key).trans (congrArg Except.ok hd)⟩
    obtain ⟨ds, hload, hkeys, hds⟩ := loadAll_of_readable hreadable
    have hnodup : (ds.map Device.key).Nodup := by
      have hlisted := (OrderedMaps.ascending_set_toList (c.members (addressKey a.text))).nodup
      rw [← hkeys, ← Function.comp_def, ← List.map_map] at hlisted
      exact List.Nodup.of_map deviceKey hlisted
    rw [byAddress, if_neg ha]
    simp only [LawfulBackend.members hs, hload]
    -- Both lists ascend, so it is enough that they hold the same devices.
    refine congrArg Except.ok ((ascending_sortByKey hnodup).eq_of_mem_iff
      (h.keyed.ascending_holders a) fun d => ?_)
    rw [sortByKey, List.mem_mergeSort, h.keyed.mem_holders]
    constructor
    · intro hd
      have hread := hds d hd
      rw [load_deviceKey hs h, Except.ok.injEq] at hread
      have hmem : deviceKey d.key ∈ c.members (addressKey a.text) := by
        rw [← Std.ExtTreeSet.mem_toList, ← hkeys]
        exact List.mem_map_of_mem hd
      obtain ⟨e, hkey, he, haddress⟩ := (h.mem_members ha).mp hmem
      rw [deviceKey_injective hkey, hread] at he
      obtain rfl := Option.some.inj he
      exact ⟨hread, haddress, ha⟩
    · rintro ⟨hd, haddress, -⟩
      have hmem := (h.mem_members ha).mpr ⟨d, rfl, hd, haddress⟩
      rw [← Std.ExtTreeSet.mem_toList, ← hkeys] at hmem
      obtain ⟨e, he, hkey⟩ := List.mem_map.mp hmem
      have hread := hds e he
      rw [hkey, load_deviceKey hs h, hd, Except.ok.injEq] at hread
      rwa [Option.some.inj hread]

theorem apply_spec (hs : LawfulBackend.Holds s c) (writes : List Write) :
    (apply (⟨s⟩ : RecordStore σ) writes).answer = .ok () ∧
      LawfulBackend.Holds (apply (⟨s⟩ : RecordStore σ) writes).state.backend
        (writes.foldl Contents.write c) := by
  obtain ⟨hans, hstate⟩ := LawfulBackend.apply hs writes
  refine ⟨?_, hstate⟩
  simp only [apply, Reply.mapError, Reply.mapState, hans]
  rfl

def Shows (s : RecordStore σ) (t : DeviceTable) : Prop :=
  ∃ c, LawfulBackend.Holds s.backend c ∧ c.Represents t

theorem simulation : Simulation (fun d fields => ∀ f ∈ fields, d.Storable f)
    (Shows : RecordStore σ → DeviceTable → Prop) where
  get := by
    rintro ⟨s⟩ t key ⟨c, hs, h⟩
    simp only [DeviceStore.get, get, load_deviceKey hs h]
    cases t.devices[key]? <;> rfl
  byAddress := by
    rintro ⟨s⟩ t a ⟨c, hs, h⟩
    exact byAddress_eq_holders hs h a
  set := by
    rintro ⟨s⟩ t d fields hfields ⟨c, hs, h⟩
    simp only [DeviceStore.set, set_eq_apply (LawfulBackend.field hs _ _)]
    obtain ⟨hans, hstate⟩ := apply_spec hs (c.setWrites d fields)
    exact ⟨hans, _, hstate, h.set hfields⟩
  delete := by
    rintro ⟨s⟩ t key ⟨c, hs, h⟩
    simp only [DeviceStore.delete]
    cases hd : t.devices[key]? with
    | none =>
      simp only [delete, LawfulBackend.fields hs, h.absent hd]
      exact ⟨rfl, c, hs, h⟩
    | some d =>
      rw [delete_eq_apply (LawfulBackend.fields hs _) (h.present hd).nonempty]
      obtain ⟨hans, hstate⟩ := apply_spec hs (c.deleteWrites key)
      exact ⟨hans, _, hstate, h.delete key⟩

end RecordStore

end LorawanRouting
