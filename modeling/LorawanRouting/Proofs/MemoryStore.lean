import LorawanRouting.Device.MemoryStore
import LorawanRouting.Proofs.DeviceCalls
import LorawanRouting.Proofs.Identifier
import Mathlib.Logic.Basic

/-!
The memory store keeps its index exact: the bucket of an address holds the keys of the devices with
that address and no others. So it answers like the table of its devices.
-/

namespace LorawanRouting.MemoryStore
open OrderedMaps (Ascending)

variable {s : MemoryStore} {key k : DeviceKey} {address a : DevAddr}

def table (s : MemoryStore) : DeviceTable := ⟨s.devices⟩

theorem bucket_insert (s : MemoryStore) (address a : DevAddr) (b : Std.ExtTreeSet DeviceKey) :
    bucket { s with index := s.index.insert address b } a =
      if address = a then b else s.bucket a := by
  by_cases ha : address = a
  · simp [bucket, ha]
  · simp [bucket, Std.ExtTreeMap.getElem?_insert, ha]

theorem bucket_erase (s : MemoryStore) (address a : DevAddr) :
    bucket { s with index := s.index.erase address } a =
      if address = a then ∅ else s.bucket a := by
  by_cases ha : address = a
  · simp [bucket, ha]
  · simp [bucket, Std.ExtTreeMap.getElem?_erase, ha]

theorem bucket_unlist (s : MemoryStore) (address a : DevAddr) (key : DeviceKey) :
    (s.unlist address key).bucket a =
      if address = a then (s.bucket address).erase key else s.bucket a := by
  simp only [unlist]
  split
  case isTrue hempty =>
    rw [bucket_erase, Std.ExtTreeSet.isEmpty_iff.mp hempty]
  case isFalse => rw [bucket_insert]

theorem mem_bucket_unlist :
    k ∈ (s.unlist address key).bucket a ↔ k ∈ s.bucket a ∧ ¬ (address = a ∧ key = k) := by
  rw [bucket_unlist]
  by_cases ha : address = a
  · subst ha
    simp [Std.ExtTreeSet.mem_erase, Std.LawfulEqCmp.compare_eq_iff_eq, and_comm]
  · simp [ha]

theorem mem_bucket_list :
    k ∈ (s.list address key).bucket a ↔
      k ∈ s.bucket a ∨ (address = a ∧ key = k ∧ ¬ address.isZero) := by
  rw [list]
  split
  case isTrue hz => simp [hz]
  case isFalse hz =>
    rw [bucket_insert]
    by_cases ha : address = a
    · subst ha
      simp [Std.ExtTreeSet.mem_insert, Std.LawfulEqCmp.compare_eq_iff_eq, hz, or_comm]
    · simp [ha]

def Indexed (s : MemoryStore) : Prop :=
  ∀ ⦃a : DevAddr⦄ ⦃k : DeviceKey⦄, k ∈ s.bucket a ↔
    ¬ a.isZero ∧ ∃ d, s.devices[k]? = some d ∧ d.address = a

theorem indexed_empty : empty.Indexed := by
  intro a k
  simp [empty, bucket]

theorem address_new (key : DeviceKey) : (Device.new key).address.isZero := by
  rfl

theorem indexed_iff : s.Indexed ↔
    ∀ ⦃a k⦄, k ∈ s.bucket a ↔ ¬ a.isZero ∧ (s.table.device k).address = a := by
  refine forall₂_congr fun a k => iff_congr Iff.rfl (and_congr_right fun hz => ?_)
  rw [DeviceTable.device, table]
  cases s.devices[k]? with
  | some d => simp
  | none =>
    simp only [reduceCtorEq, false_and, exists_false, false_iff, Option.getD_none]
    rintro rfl
    exact hz (address_new k)

theorem table_set (s : MemoryStore) (d : Device) (fields : List DeviceField) :
    (s.set d fields).table = s.table.set d fields := by
  simp only [set, table, DeviceTable.set, DeviceTable.device]
  split <;> simp only [list, unlist] <;> split <;> rfl

theorem mem_bucket_set {d : Device} {fields : List DeviceField} {old new : DevAddr}
    (hold : (s.table.device d.key).address = old)
    (hnew : ((s.table.set d fields).device d.key).address = new) :
    k ∈ (s.set d fields).bucket a ↔
      (k ∈ s.bucket a ∧ ¬ (¬ (old = new ∨ old.isZero) ∧ old = a ∧ d.key = k)) ∨
      (new = a ∧ d.key = k ∧ ¬ new.isZero) := by
  rw [DeviceTable.device_set_self] at hnew
  subst hold hnew
  rw [MemoryStore.set, mem_bucket_list]
  refine or_congr ?_ Iff.rfl
  split
  case isTrue hkept => exact ⟨fun h => ⟨h, fun hr => hr.1 hkept⟩, And.left⟩
  case isFalse hmoved =>
    rw [mem_bucket_unlist]
    exact and_congr_right fun _ => not_congr ⟨fun h => ⟨hmoved, h⟩, And.right⟩

theorem Indexed.set (h : s.Indexed) (d : Device) (fields : List DeviceField) :
    (s.set d fields).Indexed := by
  rw [indexed_iff] at h ⊢
  intro a k
  -- Only the key that is set can leave the bucket of its old address or enter that of its new one.
  rw [table_set, mem_bucket_set rfl rfl, h]
  by_cases hk : d.key = k
  · subst hk
    generalize ((s.table.set d fields).device d.key).address = new
    generalize (s.table.device d.key).address = old
    by_cases hold : old = a
    · subst hold
      grind
    · grind
  · simp [hk, DeviceTable.device_set_of_ne hk]

theorem table_delete {d : Device} (hd : s.devices[key]? = some d) :
    (s.delete key).state.table = ⟨s.devices.erase key⟩ := by
  simp only [delete, hd]
  split
  · rfl
  · rfl

theorem mem_bucket_delete {d : Device} (hd : s.devices[key]? = some d) :
    k ∈ (s.delete key).state.bucket a ↔
      k ∈ s.bucket a ∧ ¬ (¬ d.address.isZero ∧ d.address = a ∧ key = k) := by
  simp only [delete, hd]
  split
  case isTrue hz => exact ⟨fun h => ⟨h, fun hr => hr.1 hz⟩, And.left⟩
  case isFalse hz =>
    rw [mem_bucket_unlist]
    exact and_congr_right fun _ => not_congr ⟨fun h => ⟨hz, h⟩, And.right⟩

theorem Indexed.delete (h : s.Indexed) (key : DeviceKey) : (s.delete key).state.Indexed := by
  cases hd : s.devices[key]? with
  | none =>
    simp only [MemoryStore.delete, hd]
    exact h
  | some d =>
    intro a k
    have htable : (s.delete key).state.devices = s.devices.erase key :=
      congrArg DeviceTable.devices (table_delete hd)
    rw [mem_bucket_delete hd, h, htable, Std.ExtTreeMap.getElem?_erase]
    by_cases hk : key = k
    · subst hk
      have hgone : ¬ ((¬ a.isZero ∧ ∃ e, s.devices[key]? = some e ∧ e.address = a) ∧
          ¬ (¬ d.address.isZero ∧ d.address = a ∧ key = key)) := by
        intro hkept
        obtain ⟨⟨hz, e, he, ha⟩, hkept⟩ := hkept
        obtain rfl := Option.some.inj (hd.symm.trans he)
        exact hkept ⟨ha ▸ hz, ha, rfl⟩
      simpa using hgone
    · simp [hk]

theorem Indexed.mem_byAddress (h : s.Indexed) (hkey : s.table.Keyed) {d : Device} :
    d ∈ s.byAddress a ↔ s.devices[d.key]? = some d ∧ d.address = a ∧ ¬ a.isZero := by
  simp only [byAddress, List.mem_filterMap, Std.ExtTreeSet.mem_toList]
  constructor
  · intro hmem
    obtain ⟨k, hk, hd⟩ := hmem
    obtain rfl := hkey hd
    obtain ⟨hz, e, he, ha⟩ := h.mp hk
    obtain rfl := Option.some.inj (hd.symm.trans he)
    exact ⟨hd, ha, hz⟩
  · intro hheld
    obtain ⟨hd, ha, hz⟩ := hheld
    exact ⟨d.key, h.mpr ⟨hz, d, hd, ha⟩, hd⟩

theorem ascending_byAddress (hkey : s.table.Keyed) (a : DevAddr) :
    Ascending Device.key (s.byAddress a) := by
  refine List.Pairwise.filterMap _ ?_ (OrderedMaps.ascending_set_toList (s.bucket a))
  intro k l hlt d hd e he
  rw [hkey hd, hkey he]
  exact hlt

theorem Indexed.byAddress_eq_holders (h : s.Indexed) (hkey : s.table.Keyed) (a : DevAddr) :
    s.byAddress a = s.table.holders a := by
  refine (ascending_byAddress hkey a).eq_of_mem_iff (hkey.ascending_holders a) fun d => ?_
  rw [h.mem_byAddress hkey, hkey.mem_holders]
  rfl

def Shows (s : MemoryStore) (t : DeviceTable) : Prop :=
  s.table = t ∧ s.Indexed ∧ t.Keyed

theorem shows_empty : empty.Shows .empty :=
  ⟨rfl, indexed_empty, DeviceTable.keyed_empty⟩

theorem simulation (P : Device → List DeviceField → Prop) : Simulation P Shows where
  get := by
    rintro s _ key ⟨rfl, -, -⟩
    rfl
  byAddress := by
    rintro s _ a ⟨rfl, hindex, hkey⟩
    exact congrArg Except.ok (hindex.byAddress_eq_holders hkey a)
  set := by
    rintro s _ d fields - ⟨rfl, hindex, hkey⟩
    exact ⟨rfl, table_set s d fields, hindex.set d fields, hkey.set d fields⟩
  delete := by
    rintro s _ key ⟨rfl, hindex, hkey⟩
    have hstate := hindex.delete key
    simp only [DeviceStore.delete, table]
    cases hd : s.devices[key]? with
    | none =>
      simp only [MemoryStore.delete, hd]
      exact ⟨trivial, rfl, hindex, hkey⟩
    | some d =>
      refine ⟨?_, table_delete hd, hstate, hkey.erase key⟩
      simp only [MemoryStore.delete, hd]

end LorawanRouting.MemoryStore
