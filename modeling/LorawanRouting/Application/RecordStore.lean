import LorawanRouting.Application.Store

/-!
Applications over a key-value backend, a record for each. The identifier is stored with the record
and read back from it; the other fields are taken as empty when they are missing.
-/

namespace LorawanRouting

structure ApplicationRecords (σ : Type) where
  backend : σ

namespace ApplicationRecords

variable {σ : Type} [Backend σ]

def recordKey (app : AppEui) : String := s!"application:{app.text}"

def toFields (a : Application) : FieldMap :=
  (((∅ : FieldMap).insert "app_eui" a.app.text).insert "handler_id" a.handler).insert
    "handler_net_address" a.handlerAddress

def ofFields (m : FieldMap) : Except StoreError Application :=
  let stored := m["app_eui"]?.getD ""
  match Identifier.ofText? .appEui stored with
  | none => .error (.invalidField "app_eui" stored)
  | some app => .ok ⟨app, m["handler_id"]?.getD "", m["handler_net_address"]?.getD ""⟩

def get (s : ApplicationRecords σ) (app : AppEui) : Except StoreError Application :=
  match Backend.fields s.backend (recordKey app) with
  | .error e => .error (.backend e)
  | .ok fields => if fields.isEmpty then .error .notFound else ofFields fields

def set (s : ApplicationRecords σ) (a : Application) :
    Reply (ApplicationRecords σ) StoreError Unit :=
  ((Backend.putFields s.backend (recordKey a.app) (toFields a)).mapState
    ApplicationRecords.mk).mapError .backend

def delete (s : ApplicationRecords σ) (app : AppEui) :
    Reply (ApplicationRecords σ) StoreError Unit :=
  let r := Backend.remove s.backend (recordKey app)
  match r.answer with
  | .error e => ⟨.error (.backend e), ⟨r.state⟩⟩
  | .ok true => ⟨.ok (), ⟨r.state⟩⟩
  | .ok false => ⟨.error .notFound, ⟨r.state⟩⟩

instance : ApplicationStore (ApplicationRecords σ) where
  get := get
  set := set
  delete := delete

end ApplicationRecords

end LorawanRouting
