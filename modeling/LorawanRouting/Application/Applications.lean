import LorawanRouting.Application.MemoryStore
import LorawanRouting.Application.RecordStore
import LorawanRouting.KeyValue.Refusing
import LorawanRouting.KeyValue.Storage

/-!
The stores of applications to choose from: a table in memory, or records over a backend, of which
some methods may be refused.
-/

namespace LorawanRouting

inductive Applications
  | table (t : ApplicationTable)
  | records (s : ApplicationRecords (Refusing Storage))

namespace Applications

def inMemory : Applications := .table .empty

def onStorage (storage : Storage) : Applications := .records ⟨.passing storage⟩

instance : ApplicationStore Applications where
  get s app := match s with
    | .table t => ApplicationStore.get t app
    | .records r => ApplicationStore.get r app
  set s a := match s with
    | .table t => (ApplicationStore.set t a).mapState .table
    | .records r => (ApplicationStore.set r a).mapState .records
  delete s app := match s with
    | .table t => (ApplicationStore.delete t app).mapState .table
    | .records r => (ApplicationStore.delete r app).mapState .records

end Applications

end LorawanRouting
