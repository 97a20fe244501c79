import LorawanRouting.KeyValue.Memory
import LorawanRouting.KeyValue.Relational

/-!
The backends to choose from, and the opening of a database. Opening creates the tables that are
missing and keeps what is in the others.
-/

namespace LorawanRouting

inductive DatabaseFile
  | missing
  | unreachable
  | directory
  | foreign
  | contents (db : Database)

def Database.openFile : DatabaseFile → Except BackendError Database
  | .missing => .ok .empty
  | .unreachable => .error .openFailed
  | .directory | .foreign => .error .statementFailed
  | .contents db => .ok db.createTables

inductive Storage
  | memory (kv : MemoryBackend)
  | database (db : Database)

namespace Storage

instance : Backend Storage where
  fields s key := match s with
    | .memory kv => Backend.fields kv key
    | .database db => Backend.fields db key
  field s key name := match s with
    | .memory kv => Backend.field kv key name
    | .database db => Backend.field db key name
  members s key := match s with
    | .memory kv => Backend.members kv key
    | .database db => Backend.members db key
  putFields s key fields := match s with
    | .memory kv => (Backend.putFields kv key fields).mapState .memory
    | .database db => (Backend.putFields db key fields).mapState .database
  remove s key := match s with
    | .memory kv => (Backend.remove kv key).mapState .memory
    | .database db => (Backend.remove db key).mapState .database
  addMember s key member := match s with
    | .memory kv => (Backend.addMember kv key member).mapState .memory
    | .database db => (Backend.addMember db key member).mapState .database
  removeMember s key member := match s with
    | .memory kv => (Backend.removeMember kv key member).mapState .memory
    | .database db => (Backend.removeMember db key member).mapState .database
  apply s writes := match s with
    | .memory kv => (Backend.apply kv writes).mapState .memory
    | .database db => (Backend.apply db writes).mapState .database

def reopen : Storage → Storage
  | .memory kv => .memory kv
  | .database db => .database db.createTables

def dropTable (table : Database.Table) : Storage → Storage
  | .memory kv => .memory kv
  | .database db => .database (db.dropTable table)

end Storage

end LorawanRouting
