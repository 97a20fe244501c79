import LorawanRouting.Device.Store

/-!
Devices over a key-value backend. A device is a record under its key, and each address has a set
that lists the keys of the devices holding it. A change of a record and the change of the index
that follows from it go to the backend as one batch.
-/

namespace LorawanRouting

structure RecordStore (σ : Type) where
  backend : σ

namespace RecordStore

variable {σ : Type} [Backend σ]

def deviceKey (key : DeviceKey) : String := s!"device:{key.app.text}:{key.dev.text}"

def addressKey (stored : String) : String := s!"dev_addr:{stored}"

def load (s : RecordStore σ) (recordKey : String) : Except StoreError (Option Device) :=
  match Backend.fields s.backend recordKey with
  | .error e => .error (.backend e)
  | .ok fields => if fields.isEmpty then .ok none else (Device.ofFields fields).map some

/--
The devices under some record keys. Keys without a record and records that cannot be read are left
out; a failing backend fails the whole call.
-/
def loadAll (s : RecordStore σ) : List String → Except StoreError (List Device)
  | [] => .ok []
  | k :: ks =>
    match s.load k with
    | .ok (some d) => (s.loadAll ks).map (d :: ·)
    | .ok none | .error (.invalidField ..) => s.loadAll ks
    | .error e => .error e

def sortByKey (ds : List Device) : List Device :=
  ds.mergeSort fun x y => (compare x.key y.key).isLE

def get (s : RecordStore σ) (key : DeviceKey) : Except StoreError Device :=
  match s.load (deviceKey key) with
  | .ok (some d) => .ok d
  | .ok none => .error .notFound
  | .error e => .error e

def byAddress (s : RecordStore σ) (address : DevAddr) : Except StoreError (List Device) :=
  if address.isZero then .ok []
  else match Backend.members s.backend (addressKey address.text) with
    | .error e => .error (.backend e)
    | .ok keys => (s.loadAll keys).map sortByKey

/-- The identities are stored even if they are not named, so that every record can be read. -/
def fieldsToStore (d : Device) (fields : List DeviceField) : FieldMap :=
  ((d.toFields fields).insert DeviceField.app.name (d.encodeField .app)).insert
    DeviceField.dev.name (d.encodeField .dev)

def indexWrites (recordKey old new : String) : List Write :=
  (if new = "" then [] else [.addMember (addressKey new) recordKey]) ++
    (if old = "" ∨ old = new then [] else [.removeMember (addressKey old) recordKey])

def apply (s : RecordStore σ) (writes : List Write) : Reply (RecordStore σ) StoreError Unit :=
  ((Backend.apply s.backend writes).mapState RecordStore.mk).mapError .backend

def set (s : RecordStore σ) (d : Device) (fields : List DeviceField) :
    Reply (RecordStore σ) StoreError Unit :=
  let fields := DeviceField.orAll fields
  let recordKey := deviceKey d.key
  let put := Write.putFields recordKey (fieldsToStore d fields)
  if fields.contains .address then
    match Backend.field s.backend recordKey DeviceField.address.name with
    | .error e => ⟨.error (.backend e), s⟩
    | .ok old => s.apply (put :: indexWrites recordKey (old.getD "") (d.encodeField .address))
  else s.apply [put]

def delete (s : RecordStore σ) (key : DeviceKey) : Reply (RecordStore σ) StoreError Unit :=
  let recordKey := deviceKey key
  match Backend.fields s.backend recordKey with
  | .error e => ⟨.error (.backend e), s⟩
  | .ok fields =>
    if fields.isEmpty then ⟨.error .notFound, s⟩
    else
      let old := fields[DeviceField.address.name]?.getD ""
      s.apply (.remove recordKey :: indexWrites recordKey old "")

instance : DeviceStore (RecordStore σ) where
  get := get
  byAddress := byAddress
  set := set
  delete := delete

end RecordStore

end LorawanRouting
