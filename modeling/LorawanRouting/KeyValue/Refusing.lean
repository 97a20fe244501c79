import LorawanRouting.KeyValue.Basic

/-!
A backend that refuses some of its methods. A refused call fails without doing anything; every
other call goes through to the backend behind it.
-/

namespace LorawanRouting

/-- The methods of a backend, and the batches that add a member as a kind of their own. -/
inductive Method
  | fields
  | field
  | members
  | putFields
  | remove
  | addMember
  | removeMember
  | apply
  | applyAddingMember
  deriving DecidableEq, Repr

def Method.ofBatch (writes : List Write) : List Method :=
  .apply :: if writes.any Write.addsMember then [.applyAddingMember] else []

structure Refusing (σ : Type) where
  refused : List Method
  inner : σ
  error : Method → BackendError

namespace Refusing

variable {σ α : Type} [Backend σ]

def passing (inner : σ) : Refusing σ := ⟨[], inner, fun _ => .lockPoisoned⟩

def refusal (kv : Refusing σ) (m : Method) : Option BackendError :=
  if kv.refused.contains m then some (kv.error m) else none

def ask (kv : Refusing σ) (m : Method) (answer : Except BackendError α) : Except BackendError α :=
  match kv.refusal m with
  | some e => .error e
  | none => answer

def change (kv : Refusing σ) (ms : List Method) (reply : Reply σ BackendError α) :
    Reply (Refusing σ) BackendError α :=
  match ms.findSome? kv.refusal with
  | some e => ⟨.error e, kv⟩
  | none => reply.mapState fun s => { kv with inner := s }

instance : Backend (Refusing σ) where
  fields kv key := kv.ask .fields (Backend.fields kv.inner key)
  field kv key name := kv.ask .field (Backend.field kv.inner key name)
  members kv key := kv.ask .members (Backend.members kv.inner key)
  putFields kv key fields := kv.change [.putFields] (Backend.putFields kv.inner key fields)
  remove kv key := kv.change [.remove] (Backend.remove kv.inner key)
  addMember kv key member := kv.change [.addMember] (Backend.addMember kv.inner key member)
  removeMember kv key member := kv.change [.removeMember] (Backend.removeMember kv.inner key member)
  apply kv writes := kv.change (Method.ofBatch writes) (Backend.apply kv.inner writes)

end Refusing

end LorawanRouting
