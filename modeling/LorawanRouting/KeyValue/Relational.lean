import LorawanRouting.KeyValue.Basic
import Std.Data.ExtTreeSet

/-!
A key-value backend in a relational database of two tables: one row for each field of each record,
one row for each member of each set. A table may be missing, and then every statement on it fails.
Calls are transactions: one that fails takes back everything it did.
-/

namespace LorawanRouting

structure RowKey where
  key : String
  column : String
  deriving DecidableEq

namespace RowKey

instance : Ord RowKey := ⟨compareLex (compareOn RowKey.key) (compareOn RowKey.column)⟩

instance : Std.TransOrd RowKey :=
  inferInstanceAs (Std.TransCmp (compareLex (compareOn RowKey.key) (compareOn RowKey.column)))

instance : Std.LawfulEqOrd RowKey where
  eq_of_compare {x y} h := by
    have h : (compare x.key y.key).then (compare x.column y.column) = .eq := h
    rw [Ordering.then_eq_eq] at h
    simp only [Std.LawfulEqCmp.compare_eq_iff_eq] at h
    cases x; cases y; simp_all

end RowKey

structure Database where
  fieldRows : Option (Std.ExtTreeMap RowKey String)
  memberRows : Option (Std.ExtTreeSet RowKey)

namespace Database

inductive Table
  | fields
  | members
  deriving DecidableEq, Repr

def empty : Database := ⟨some ∅, some ∅⟩

def createTables (db : Database) : Database :=
  ⟨some (db.fieldRows.getD ∅), some (db.memberRows.getD ∅)⟩

def dropTable (db : Database) : Table → Database
  | .fields => { db with fieldRows := none }
  | .members => { db with memberRows := none }

def selectFields (db : Database) (key : String) : Option FieldMap := do
  let rows ← db.fieldRows
  return (rows.toList.filter (·.1.key = key)).foldl (fun m r => m.insert r.1.column r.2) ∅

def selectField (db : Database) (key name : String) : Option (Option String) := do
  let rows ← db.fieldRows
  return rows[(⟨key, name⟩ : RowKey)]?

def selectMembers (db : Database) (key : String) : Option (List String) := do
  let rows ← db.memberRows
  return (rows.toList.filter (·.key = key)).map (·.column)

/-- Puts one row for each field. Without fields there is none to put, and a missing table is not noticed;
that the statement cannot even be prepared, if it never was before, is left out. -/
def upsert (db : Database) (key : String) (fields : FieldMap) : Option Database :=
  if fields.isEmpty then some db
  else do
    let rows ← db.fieldRows
    return { db with
      fieldRows := some (fields.toList.foldl (fun rs f => rs.insert ⟨key, f.1⟩ f.2) rows) }

def delete (db : Database) (key : String) : Option Database := do
  let fields ← db.fieldRows
  let members ← db.memberRows
  return ⟨some (fields.filter fun r _ => r.key ≠ key), some (members.filter fun r => r.key ≠ key)⟩

def insertMember (db : Database) (key member : String) : Option Database := do
  let rows ← db.memberRows
  return { db with memberRows := some (rows.insert ⟨key, member⟩) }

def deleteMember (db : Database) (key member : String) : Option Database := do
  let rows ← db.memberRows
  return { db with memberRows := some (rows.erase ⟨key, member⟩) }

def write (db : Database) : Write → Option Database
  | .putFields key fields => db.upsert key fields
  | .remove key => db.delete key
  | .addMember key member => db.insertMember key member
  | .removeMember key member => db.deleteMember key member

def holds (db : Database) (key : String) : Bool :=
  (db.fieldRows.getD ∅).toList.any (·.1.key = key) ||
    (db.memberRows.getD ∅).toList.any (·.key = key)

def answer {α : Type} : Option α → Except BackendError α
  | some a => .ok a
  | none => .error .statementFailed

/-- A transaction: the new contents if every statement succeeded, else the old ones. -/
def commit {α : Type} (db : Database) (a : α) : Option Database → Reply Database BackendError α
  | some changed => ⟨.ok a, changed⟩
  | none => ⟨.error .statementFailed, db⟩

instance : Backend Database where
  fields db key := answer (db.selectFields key)
  field db key name := answer (db.selectField key name)
  members db key := answer (db.selectMembers key)
  putFields db key fields := db.commit () (db.upsert key fields)
  remove db key := db.commit (db.holds key) (db.delete key)
  addMember db key member := db.commit () (db.insertMember key member)
  removeMember db key member := db.commit () (db.deleteMember key member)
  apply db writes := db.commit () (writes.foldlM write db)

end Database

end LorawanRouting
