import LorawanRouting.Proofs.IndexRecovery

/-!
Records of devices as they are stored, whether they can be read or not. A record can be read if each
of its texts can, and else the error names one that cannot. As long as every record has the identities
of its own key, a search lists exactly the records with its address that can be read.
-/

namespace LorawanRouting
open OrderedMaps (Ascending)

namespace Device

variable {d e : Device} {f : DeviceField} {v : String} {m : FieldMap}

theorem Reads.sameAt (h : Reads v f d) (h' : Reads v f e) : SameAt d e f := by
  have hblank := (reads_iff_sameAt h').mp h
  exact hblank.symm.trans (sameAt_copyField blank e f)

theorem exists_ofFields_iff : (∃ d, ofFields m = .ok d) ↔
    ∀ f v, m[DeviceField.name f]? = some v → ∃ b, blank.decodeField f v = .ok b := by
  constructor
  · rintro ⟨d, hread⟩ f v hv
    have htext := ofFields_eq_ok_iff.mp hread f
    rw [textIn, hv] at htext
    exact ⟨_, htext⟩
  · intro hreadable
    cases hread : ofFields m with
    | ok d => exact ⟨d, rfl⟩
    | error err =>
      obtain ⟨f, v, hv, hrefused, rfl⟩ := ofFields_error hread
      obtain ⟨b, hb⟩ := hreadable f v hv
      rw [hb] at hrefused
      cases hrefused

theorem key_of_read {key : DeviceKey} (hread : ofFields m = .ok d)
    (hids : ∀ f ∈ [DeviceField.app, .dev], textIn m f = (new key).encodeField f) : d.key = key := by
  have hsame : ∀ f ∈ [DeviceField.app, .dev], SameAt d (new key) f := by
    intro f hf
    have htext := ofFields_eq_ok_iff.mp hread f
    rw [hids f hf] at htext
    refine htext.sameAt (reads_encodeField ?_)
    rintro rfl
    simp at hf
  have happ : d.app = key.app := hsame .app (by simp)
  have hdev : d.dev = key.dev := hsame .dev (by simp)
  rw [Device.key, happ, hdev]

end Device

namespace Contents
open RecordStore (deviceKey addressKey fieldsToStore)

variable {c : Contents} {d : Device} {key : DeviceKey} {a : DevAddr}

theorem record_set_deviceKey (c : Contents) (d : Device) (fields : List DeviceField)
    (key : DeviceKey) : (c.set d fields).record (deviceKey key) =
      if d.key = key then
        (c.record (deviceKey key)).overlay (fieldsToStore d (DeviceField.orAll fields))
      else c.record (deviceKey key) := by
  rw [record_set]
  split
  case isTrue hkey => rw [← hkey, Function.update_self]
  case isFalse hkey =>
    rw [Function.update_of_ne (RecordStore.deviceKey_injective.ne (Ne.symm hkey))]

theorem record_delete_deviceKey (c : Contents) (gone key : DeviceKey) :
    (c.delete gone).record (deviceKey key) =
      if gone = key then ∅ else c.record (deviceKey key) := by
  rw [record_delete]
  split
  case isTrue hkey => rw [← hkey, Function.update_self]
  case isFalse hkey =>
    rw [Function.update_of_ne (RecordStore.deviceKey_injective.ne (Ne.symm hkey))]

structure Identified (c : Contents) : Prop where
  sound : c.Sound
  identities : ∀ {key}, (c.record (deviceKey key)).isEmpty = false →
    ∀ f ∈ [DeviceField.app, .dev],
      Device.textIn (c.record (deviceKey key)) f = (Device.new key).encodeField f

theorem identified_empty : empty.Identified where
  sound := sound_empty
  identities h := by simp [empty] at h

theorem Identified.set (h : c.Identified) (d : Device) (fields : List DeviceField) :
    (c.set d fields).Identified where
  sound := h.sound.set d fields
  identities {key} hrecord f hf := by
    rw [record_set_deviceKey] at hrecord ⊢
    split at hrecord
    case isTrue hkey =>
      have hstored : f ∈ RecordStore.storedFields fields := List.mem_append_right _ hf
      rw [if_pos hkey, RecordStore.textIn_overlay_fieldsToStore, if_pos hstored, ← hkey]
      -- the identities of a device are those of its key
      rcases List.mem_pair.mp hf with rfl | rfl <;> rfl
    case isFalse hkey =>
      rw [if_neg hkey]
      exact h.identities hrecord f hf

theorem Identified.delete (h : c.Identified) (gone : DeviceKey) : (c.delete gone).Identified where
  sound := h.sound.delete gone
  identities {key} hrecord f hf := by
    rw [record_delete_deviceKey] at hrecord ⊢
    split at hrecord
    · simp at hrecord
    case isFalse hkey =>
      rw [if_neg hkey]
      exact h.identities hrecord f hf

theorem Identified.key_of_device? (h : c.Identified) (hd : c.device? (deviceKey key) = some d) :
    d.key = key := by
  obtain ⟨hrecord, hread⟩ := device?_eq_some.mp hd
  exact Device.key_of_read hread (h.identities hrecord)

theorem Identified.deviceKey_of_listed (h : c.Identified) {stored k : String}
    (hk : k ∈ c.members (addressKey stored)) (hd : c.device? k = some d) : deviceKey d.key = k := by
  obtain ⟨key, rfl⟩ := h.sound.exists_deviceKey hk
  rw [h.key_of_device? hd]

theorem Identified.mem_listedAt (h : c.Identified) :
    d ∈ c.listedAt a ↔
      c.address (deviceKey d.key) = a.text ∧ c.device? (deviceKey d.key) = some d := by
  rw [listedAt, List.mem_filterMap]
  constructor
  · rintro ⟨k, hk, hd⟩
    have hmem := Std.ExtTreeSet.mem_toList.mp hk
    rw [h.deviceKey_of_listed hmem hd]
    exact ⟨(h.sound.indexed.mp hmem).2, hd⟩
  · rintro ⟨haddress, hd⟩
    refine ⟨_, Std.ExtTreeSet.mem_toList.mpr ?_, hd⟩
    exact h.sound.indexed.mpr ⟨Identifier.text_ne_empty a, haddress⟩

theorem Identified.nodup_listedAt (h : c.Identified) (a : DevAddr) :
    ((c.listedAt a).map Device.key).Nodup := by
  have hlisted := (OrderedMaps.ascending_set_toList (c.members (addressKey a.text))).nodup
  refine List.pairwise_map.mpr (List.pairwise_filterMap.mpr (hlisted.imp_of_mem ?_))
  intro k l hk hl hne d hd e he hkey
  refine hne ?_
  rw [← h.deviceKey_of_listed (Std.ExtTreeSet.mem_toList.mp hk) hd, hkey,
    h.deviceKey_of_listed (Std.ExtTreeSet.mem_toList.mp hl) he]

end Contents

namespace RecordStore
open LawfulBackend (Holds)

variable {s : Storage} {c : Contents} {key : DeviceKey} {d : Device}

theorem get_of_holds (hs : Holds s c) (key : DeviceKey) :
    get (⟨s⟩ : RecordStore Storage) key =
      if (c.record (deviceKey key)).isEmpty then .error .notFound
      else Device.ofFields (c.record (deviceKey key)) := by
  simp only [get, load, LawfulBackend.fields hs]
  by_cases hempty : (c.record (deviceKey key)).isEmpty
  · simp only [hempty, if_true]
  · simp only [hempty, Bool.false_eq_true, if_false]
    cases Device.ofFields (c.record (deviceKey key)) <;> rfl

theorem get_eq_ok_iff (hs : Holds s c) :
    get (⟨s⟩ : RecordStore Storage) key = .ok d ↔ c.device? (deviceKey key) = some d := by
  rw [get_of_holds hs, Contents.device?_eq_some]
  cases (c.record (deviceKey key)).isEmpty <;> simp

theorem byAddress_of_identified (hs : Holds s c) (h : c.Identified) (a : DevAddr) :
    ∃ ds, byAddress (⟨s⟩ : RecordStore Storage) a = .ok ds ∧ Ascending Device.key ds ∧
      ∀ d, d ∈ ds ↔ ¬ a.isZero ∧ c.address (deviceKey d.key) = a.text ∧
        get (⟨s⟩ : RecordStore Storage) d.key = .ok d := by
  by_cases ha : a.isZero
  · refine ⟨[], ?_, List.Pairwise.nil, by simp [ha]⟩
    rw [byAddress, if_pos ha]
  · refine ⟨_, byAddress_of_holds hs ha, ascending_sortByKey (h.nodup_listedAt a), fun d => ?_⟩
    rw [sortByKey, List.mem_mergeSort, h.mem_listedAt, get_eq_ok_iff hs]
    simp [ha]

end RecordStore

end LorawanRouting
