import LorawanRouting.Config.Basic
import LorawanRouting.Device.MemoryStore
import LorawanRouting.Device.RecordStore
import LorawanRouting.KeyValue.Refusing
import LorawanRouting.KeyValue.Storage

/-!
The stores of devices to choose from: tables in memory, or records over a backend, of which some
methods may be refused.
-/

namespace LorawanRouting

inductive Devices
  | tables (s : MemoryStore)
  | records (s : RecordStore (Refusing Storage))

namespace Devices

def inMemory : Devices := .tables .empty

def onStorage (storage : Storage) : Devices := .records ⟨.passing storage⟩

def ofConfig (kind : StorageKind) (file : DatabaseFile) : Except StoreError Devices :=
  match kind with
  | .memory => .ok inMemory
  | .database =>
    match Database.openFile file with
    | .ok db => .ok (onStorage (.database db))
    | .error e => .error (.backend e)

instance : DeviceStore Devices where
  get s key := match s with
    | .tables t => DeviceStore.get t key
    | .records r => DeviceStore.get r key
  byAddress s address := match s with
    | .tables t => DeviceStore.byAddress t address
    | .records r => DeviceStore.byAddress r address
  set s d fields := match s with
    | .tables t => (DeviceStore.set t d fields).mapState .tables
    | .records r => (DeviceStore.set r d fields).mapState .records
  delete s key := match s with
    | .tables t => (DeviceStore.delete t key).mapState .tables
    | .records r => (DeviceStore.delete r key).mapState .records

end Devices

end LorawanRouting
