import LorawanRouting.Device.RecordStore
import LorawanRouting.Proofs.Contents

/-!
The index of devices over a backend, told about the contents of the backend: every set and delete
keeps in the set of each address the keys of the records stored with that address.
-/

namespace LorawanRouting

namespace RecordStore

theorem deviceKey_eq (key : DeviceKey) :
    deviceKey key = "device:" ++ key.app.text ++ ":" ++ key.dev.text := rfl

theorem addressKey_eq (stored : String) : addressKey stored = "dev_addr:" ++ stored := rfl

theorem deviceKey_injective : Function.Injective deviceKey := by
  intro x y h
  have hlist := congrArg String.toList h
  simp only [deviceKey_eq, String.toList_append, List.append_assoc, List.append_cancel_left_eq]
    at hlist
  have hlen : x.app.text.toList.length = y.app.text.toList.length := by
    rw [Identifier.length_text, Identifier.length_text]
  obtain ⟨happ, hrest⟩ := List.append_inj hlist hlen
  have hdev := List.append_cancel_left hrest
  cases x
  cases y
  rw [DeviceKey.mk.injEq]
  exact ⟨Identifier.text_injective (String.toList_injective happ),
    Identifier.text_injective (String.toList_injective hdev)⟩

theorem addressKey_injective : Function.Injective addressKey := by
  intro x y h
  have hlist := congrArg String.toList h
  simp only [addressKey_eq, String.toList_append, List.append_cancel_left_eq] at hlist
  exact String.toList_injective hlist

theorem deviceKey_ne_addressKey (key : DeviceKey) (stored : String) :
    deviceKey key ≠ addressKey stored := by
  intro h
  have hlist := congrArg String.toList h
  simp only [deviceKey_eq, addressKey_eq, String.toList_append, List.append_assoc] at hlist
  have hprefix := congrArg (List.take 4) hlist
  rw [List.take_append_of_le_length (by decide), List.take_append_of_le_length (by decide)]
    at hprefix
  exact absurd hprefix (by decide)

theorem orAll_orAll (fields : List DeviceField) :
    DeviceField.orAll (DeviceField.orAll fields) = DeviceField.orAll fields := by
  by_cases h : fields = []
  · rw [h]
    rfl
  · simp [DeviceField.orAll, h]

def storedFields (fields : List DeviceField) : List DeviceField :=
  DeviceField.orAll fields ++ [.app, .dev]

theorem getElem?_fieldsToStore (d : Device) (fields : List DeviceField) (f : DeviceField) :
    (fieldsToStore d (DeviceField.orAll fields))[f.name]? =
      if f ∈ storedFields fields then some (d.encodeField f) else none := by
  have hstep : fieldsToStore d (DeviceField.orAll fields) =
      (storedFields fields).foldl (fun m f => m.insert f.name (d.encodeField f)) ∅ := by
    rw [fieldsToStore, Device.toFields, orAll_orAll, storedFields, List.foldl_append]
    rfl
  rw [hstep, Device.getElem?_foldl_encode]
  simp

theorem isEmpty_overlay_fieldsToStore (m : FieldMap) (d : Device) (fields : List DeviceField) :
    (m.overlay (fieldsToStore d (DeviceField.orAll fields))).isEmpty = false := by
  have happ : (m.overlay (fieldsToStore d (DeviceField.orAll fields)))[DeviceField.app.name]? =
      some (d.encodeField .app) := by
    rw [FieldMap.getElem?_overlay, getElem?_fieldsToStore, storedFields]
    simp
  rw [Bool.eq_false_iff]
  intro hempty
  rw [Std.ExtTreeMap.isEmpty_iff.mp hempty] at happ
  simp at happ

theorem textIn_overlay_fieldsToStore (m : FieldMap) (d : Device) (fields : List DeviceField)
    (f : DeviceField) :
    Device.textIn (m.overlay (fieldsToStore d (DeviceField.orAll fields))) f =
      if f ∈ storedFields fields then d.encodeField f else Device.textIn m f := by
  rw [Device.textIn, FieldMap.getElem?_overlay, getElem?_fieldsToStore]
  split
  · rfl
  · rfl

theorem address_mem_storedFields {fields : List DeviceField} :
    .address ∈ storedFields fields ↔ .address ∈ DeviceField.orAll fields := by
  simp [storedFields]

end RecordStore

namespace Contents
open RecordStore (deviceKey addressKey indexWrites fieldsToStore)

variable {c c₁ : Contents} {k recordKey old new stored : String}

def address (c : Contents) (k : String) : String := Device.textIn (c.record k) .address

/-- Each set of the index lists the records with its address. -/
def Indexed (c : Contents) : Prop :=
  ∀ ⦃stored k : String⦄, k ∈ c.members (addressKey stored) ↔ stored ≠ "" ∧ c.address k = stored

theorem indexed_empty : empty.Indexed := by
  intro stored k
  have haddress : empty.address k = "" := by simp [address, empty, Device.textIn]
  rw [haddress]
  simp [empty, eq_comm]

theorem record_indexWrites (c : Contents) (recordKey old new : String) :
    ((indexWrites recordKey old new).foldl write c).record = c.record := by
  rw [indexWrites]
  split <;> split <;> rfl

theorem mem_addMember : k ∈ (c.write (.addMember (addressKey new) recordKey)).members
    (addressKey stored) ↔
      k ∈ c.members (addressKey stored) ∨ (new = stored ∧ recordKey = k) := by
  by_cases hs : stored = new
  · simp [write, hs, Std.ExtTreeSet.mem_insert, or_comm]
  · have hkey := RecordStore.addressKey_injective.ne hs
    simp [write, hkey, Ne.symm hs]

theorem mem_removeMember : k ∈ (c.write (.removeMember (addressKey old) recordKey)).members
    (addressKey stored) ↔
      k ∈ c.members (addressKey stored) ∧ ¬ (old = stored ∧ recordKey = k) := by
  by_cases hs : stored = old
  · simp [write, hs, Std.ExtTreeSet.mem_erase, and_comm]
  · have hkey := RecordStore.addressKey_injective.ne hs
    simp [write, hkey, Ne.symm hs]

theorem mem_indexWrites :
    k ∈ ((indexWrites recordKey old new).foldl write c).members (addressKey stored) ↔
      (k ∈ c.members (addressKey stored) ∨ (new ≠ "" ∧ new = stored ∧ recordKey = k)) ∧
        ¬ (¬ (old = "" ∨ old = new) ∧ old = stored ∧ recordKey = k) := by
  rw [indexWrites, List.foldl_append]
  generalize hadded : (if new = "" then [] else [Write.addMember (addressKey new) recordKey]).foldl
    write c = added
  have hadd : k ∈ added.members (addressKey stored) ↔
      k ∈ c.members (addressKey stored) ∨ (new ≠ "" ∧ new = stored ∧ recordKey = k) := by
    rw [← hadded]
    split
    case isTrue hnone => exact ⟨Or.inl, fun h => h.resolve_right fun hn => hn.1 hnone⟩
    case isFalse hsome =>
      rw [List.foldl_cons, List.foldl_nil, mem_addMember]
      exact or_congr_right ⟨fun h => ⟨hsome, h⟩, And.right⟩
  rw [← hadd]
  split
  case isTrue hkept => exact ⟨fun h => ⟨h, fun hr => hr.1 hkept⟩, And.left⟩
  case isFalse hmoved =>
    rw [List.foldl_cons, List.foldl_nil, mem_removeMember]
    exact and_congr_right fun _ => not_congr ⟨fun h => ⟨hmoved, h⟩, And.right⟩

theorem Indexed.change (h : c.Indexed)
    (hmembers : ∀ stored, c₁.members (addressKey stored) = c.members (addressKey stored))
    (hrecord : ∀ k, k ≠ recordKey → c₁.record k = c.record k) :
    ((indexWrites recordKey (c.address recordKey) (c₁.address recordKey)).foldl write c₁).Indexed := by
  intro stored k
  have hlast : ((indexWrites recordKey (c.address recordKey) (c₁.address recordKey)).foldl
      write c₁).address k = c₁.address k := by rw [address, record_indexWrites, ← address]
  -- Only the record that changed can leave the set of its old address or enter that of its new one.
  rw [mem_indexWrites, hmembers, h, hlast]
  by_cases hk : k = recordKey
  · subst hk
    generalize c.address k = old
    generalize c₁.address k = new
    by_cases hstored : new = stored
    · subst hstored
      grind
    · grind
  · have haddress : c₁.address k = c.address k := by rw [address, hrecord k hk, ← address]
    simp [haddress, Ne.symm hk]

theorem Indexed.of_same_addresses (h : c.Indexed)
    (hmembers : ∀ stored, c₁.members (addressKey stored) = c.members (addressKey stored))
    (haddress : ∀ k, c₁.address k = c.address k) : c₁.Indexed := by
  intro stored k
  rw [hmembers, h, haddress]

def putWrite (d : Device) (fields : List DeviceField) : Write :=
  .putFields (deviceKey d.key) (fieldsToStore d (DeviceField.orAll fields))

def setWrites (c : Contents) (d : Device) (fields : List DeviceField) : List Write :=
  putWrite d fields ::
    if (DeviceField.orAll fields).contains .address then
      indexWrites (deviceKey d.key) (c.address (deviceKey d.key)) (d.encodeField .address)
    else []

def deleteWrites (c : Contents) (key : DeviceKey) : List Write :=
  .remove (deviceKey key) :: indexWrites (deviceKey key) (c.address (deviceKey key)) ""

def set (c : Contents) (d : Device) (fields : List DeviceField) : Contents :=
  (c.setWrites d fields).foldl write c

def delete (c : Contents) (key : DeviceKey) : Contents := (c.deleteWrites key).foldl write c

theorem record_set (c : Contents) (d : Device) (fields : List DeviceField) :
    (c.set d fields).record = Function.update c.record (deviceKey d.key)
      ((c.record (deviceKey d.key)).overlay (fieldsToStore d (DeviceField.orAll fields))) := by
  rw [set, setWrites, List.foldl_cons]
  split
  · rw [record_indexWrites]
    rfl
  · rfl

theorem record_delete (c : Contents) (key : DeviceKey) :
    (c.delete key).record = Function.update c.record (deviceKey key) ∅ := by
  rw [delete, deleteWrites, List.foldl_cons, record_indexWrites]
  rfl

theorem record_putWrite {d : Device} (fields : List DeviceField) (hk : k ≠ deviceKey d.key) :
    (c.write (putWrite d fields)).record k = c.record k := by
  simp [putWrite, write, hk]

theorem address_putWrite (c : Contents) (d : Device) (fields : List DeviceField) :
    (c.write (putWrite d fields)).address (deviceKey d.key) =
      if .address ∈ DeviceField.orAll fields then d.encodeField .address
      else c.address (deviceKey d.key) := by
  simp [address, putWrite, write, RecordStore.textIn_overlay_fieldsToStore,
    RecordStore.address_mem_storedFields]

theorem Indexed.set (h : c.Indexed) (d : Device) (fields : List DeviceField) :
    (c.set d fields).Indexed := by
  have haddress := address_putWrite c d fields
  rw [Contents.set, setWrites, List.foldl_cons]
  by_cases hnamed : .address ∈ DeviceField.orAll fields
  · rw [if_pos hnamed] at haddress
    rw [if_pos (List.contains_iff_mem.mpr hnamed), ← haddress]
    exact h.change (fun _ => rfl) fun k hk => record_putWrite fields hk
  · rw [if_neg hnamed] at haddress
    rw [if_neg (by simpa using hnamed)]
    refine h.of_same_addresses (fun _ => rfl) fun k => ?_
    by_cases hk : k = deviceKey d.key
    · rw [hk]
      exact haddress
    · rw [List.foldl_nil, address, address, record_putWrite fields hk]

theorem Indexed.delete (h : c.Indexed) (key : DeviceKey) : (c.delete key).Indexed := by
  have haddress : (c.write (.remove (deviceKey key))).address (deviceKey key) = "" := by
    simp [address, write, Device.textIn]
  rw [Contents.delete, deleteWrites, List.foldl_cons, ← haddress]
  refine h.change (fun stored => ?_) (fun k hk => ?_)
  · simp [write, (RecordStore.deviceKey_ne_addressKey key stored).symm]
  · simp [write, hk]

structure Sound (c : Contents) : Prop where
  indexed : c.Indexed
  named : ∀ k, (∀ key, deviceKey key ≠ k) → c.record k = ∅

theorem sound_empty : empty.Sound := ⟨indexed_empty, fun _ _ => rfl⟩

theorem Sound.set (h : c.Sound) (d : Device) (fields : List DeviceField) :
    (c.set d fields).Sound := by
  refine ⟨h.indexed.set d fields, fun k hk => ?_⟩
  rw [record_set, Function.update_of_ne (hk d.key).symm]
  exact h.named k hk

theorem Sound.delete (h : c.Sound) (key : DeviceKey) : (c.delete key).Sound := by
  refine ⟨h.indexed.delete key, fun k hk => ?_⟩
  rw [record_delete, Function.update_of_ne (hk key).symm]
  exact h.named k hk

theorem Sound.exists_deviceKey (h : c.Sound) {stored k : String}
    (hk : k ∈ c.members (addressKey stored)) : ∃ key, deviceKey key = k := by
  obtain ⟨hstored, haddress⟩ := h.indexed.mp hk
  by_contra hnone
  rw [Contents.address, h.named k fun key hkey => hnone ⟨key, hkey⟩] at haddress
  exact hstored haddress.symm

end Contents

end LorawanRouting
