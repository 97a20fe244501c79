import LorawanRouting.Device.Store
import Std.Data.ExtTreeMap
import Std.Data.ExtTreeSet

/-!
Devices in memory, with an index from addresses to the keys of the devices that hold them. Devices
without an address are not in the index, and a bucket that becomes empty is taken away.
-/

namespace LorawanRouting

structure MemoryStore where
  devices : Std.ExtTreeMap DeviceKey Device
  index : Std.ExtTreeMap DevAddr (Std.ExtTreeSet DeviceKey)

namespace MemoryStore

def empty : MemoryStore := ⟨∅, ∅⟩

def bucket (s : MemoryStore) (address : DevAddr) : Std.ExtTreeSet DeviceKey :=
  s.index[address]?.getD ∅

def unlist (s : MemoryStore) (address : DevAddr) (key : DeviceKey) : MemoryStore :=
  let left := (s.bucket address).erase key
  { s with index := if left.isEmpty then s.index.erase address else s.index.insert address left }

def list (s : MemoryStore) (address : DevAddr) (key : DeviceKey) : MemoryStore :=
  if address.isZero then s
  else { s with index := s.index.insert address ((s.bucket address).insert key) }

def byAddress (s : MemoryStore) (address : DevAddr) : List Device :=
  (s.bucket address).toList.filterMap fun key => s.devices[key]?

def set (s : MemoryStore) (d : Device) (fields : List DeviceField) : MemoryStore :=
  let old := s.devices[d.key]?.getD (.new d.key)
  let new := old.copyFields d (DeviceField.orAll fields)
  let s := { s with devices := s.devices.insert d.key new }
  let s := if old.address = new.address ∨ old.address.isZero then s else s.unlist old.address d.key
  s.list new.address d.key

def delete (s : MemoryStore) (key : DeviceKey) : Reply MemoryStore StoreError Unit :=
  match s.devices[key]? with
  | none => ⟨.error .notFound, s⟩
  | some d =>
    let s := { s with devices := s.devices.erase key }
    ⟨.ok (), if d.address.isZero then s else s.unlist d.address key⟩

instance : DeviceStore MemoryStore where
  get s key :=
    match s.devices[key]? with
    | some d => .ok d
    | none => .error .notFound
  byAddress s address := .ok (s.byAddress address)
  set s d fields := ⟨.ok (), s.set d fields⟩
  delete s key := s.delete key

end MemoryStore

end LorawanRouting
