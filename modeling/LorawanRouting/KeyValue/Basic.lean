import LorawanRouting.Reply
import Std.Data.ExtTreeMap

/-!
The key-value backends on which stores are built. Under a key lies a record, which is a map from
field names to texts, and a set of members, which serves as an index. A backend answers each call
or fails; a batch of writes is applied in order and as one call.
-/

namespace LorawanRouting

abbrev FieldMap := Std.ExtTreeMap String String

inductive BackendError
  | statementFailed
  | openFailed
  | lockPoisoned
  deriving DecidableEq, Repr

def BackendError.message? : BackendError → Option String
  | .statementFailed | .openFailed => none
  | .lockPoisoned => some "backend lock poisoned"

inductive Write
  | putFields (key : String) (fields : FieldMap)
  | remove (key : String)
  | addMember (key member : String)
  | removeMember (key member : String)

def Write.addsMember : Write → Bool
  | .addMember .. => true
  | _ => false

class Backend (σ : Type) where
  fields : σ → String → Except BackendError FieldMap
  field : σ → (key name : String) → Except BackendError (Option String)
  members : σ → String → Except BackendError (List String)
  putFields : σ → String → FieldMap → Reply σ BackendError Unit
  /-- Removes record and members under a key and tells whether there were any. -/
  remove : σ → String → Reply σ BackendError Bool
  addMember : σ → (key member : String) → Reply σ BackendError Unit
  removeMember : σ → (key member : String) → Reply σ BackendError Unit
  apply : σ → List Write → Reply σ BackendError Unit

def FieldMap.overlay (base top : FieldMap) : FieldMap :=
  top.toList.foldl (fun m e => m.insert e.1 e.2) base

end LorawanRouting
