import LorawanRouting.KeyValue.Basic
import Std.Data.ExtTreeSet

/-!
A key-value backend in memory. No call fails. A record exists from the first write to it, even of
no fields; a set exists as long as it has members.
-/

namespace LorawanRouting

structure MemoryBackend where
  records : Std.ExtTreeMap String FieldMap
  sets : Std.ExtTreeMap String (Std.ExtTreeSet String)

namespace MemoryBackend

def empty : MemoryBackend := ⟨∅, ∅⟩

def fields (kv : MemoryBackend) (key : String) : FieldMap := kv.records[key]?.getD ∅

def members (kv : MemoryBackend) (key : String) : Std.ExtTreeSet String := kv.sets[key]?.getD ∅

def putFields (kv : MemoryBackend) (key : String) (fields : FieldMap) : MemoryBackend :=
  { kv with records := kv.records.insert key ((kv.fields key).overlay fields) }

def remove (kv : MemoryBackend) (key : String) : MemoryBackend :=
  ⟨kv.records.erase key, kv.sets.erase key⟩

def addMember (kv : MemoryBackend) (key member : String) : MemoryBackend :=
  { kv with sets := kv.sets.insert key ((kv.members key).insert member) }

def removeMember (kv : MemoryBackend) (key member : String) : MemoryBackend :=
  let left := (kv.members key).erase member
  { kv with sets := if left.isEmpty then kv.sets.erase key else kv.sets.insert key left }

def write (kv : MemoryBackend) : Write → MemoryBackend
  | .putFields key fields => kv.putFields key fields
  | .remove key => kv.remove key
  | .addMember key member => kv.addMember key member
  | .removeMember key member => kv.removeMember key member

instance : Backend MemoryBackend where
  fields kv key := .ok (kv.fields key)
  field kv key name := .ok (kv.fields key)[name]?
  members kv key := .ok (kv.members key).toList
  putFields kv key fields := ⟨.ok (), kv.putFields key fields⟩
  remove kv key := ⟨.ok (kv.records.contains key || kv.sets.contains key), kv.remove key⟩
  addMember kv key member := ⟨.ok (), kv.addMember key member⟩
  removeMember kv key member := ⟨.ok (), kv.removeMember key member⟩
  apply kv writes := ⟨.ok (), writes.foldl write kv⟩

end MemoryBackend

end LorawanRouting
