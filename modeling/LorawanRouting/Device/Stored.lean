import LorawanRouting.Device.Basic
import LorawanRouting.KeyValue.Basic
import LorawanRouting.Text.Json
import LorawanRouting.Text.Numeral
import LorawanRouting.Time.Rfc3339

/-!
Devices as stored texts, one for each field. A field without a value is stored as the empty text,
and reading the empty text leaves a field as it is. Identifiers are hexadecimal, counters decimal,
times RFC 3339, options and totals JSON.
-/

namespace LorawanRouting

inductive StoreError
  | notFound
  | invalidField (field value : String)
  | backend (cause : BackendError)
  deriving DecidableEq, Repr

namespace StoreError

def message? : StoreError → Option String
  | notFound => some "not found"
  | invalidField field value => some s!"invalid value {Quoted.text value} for field {field}"
  | backend cause => cause.message?

def isNotFound : StoreError → Bool
  | notFound => true
  | _ => false

end StoreError

namespace DeviceOptions

def keys : List String := ["disable_f_cnt_check", "uses_32bit_f_cnt"]

def toJson (o : DeviceOptions) : String :=
  "\x7b\"disable_f_cnt_check\":" ++ toString o.skipsCounterCheck ++
    ",\"uses_32bit_f_cnt\":" ++ toString o.usesLongCounters ++ "\x7d"

def ofJson? (s : String) : Option DeviceOptions := do
  match ← (← Json.read? s).record? keys with
  | [a, b] => return ⟨← a.boolean?, ← b.boolean?⟩
  | _ => none

end DeviceOptions

namespace FrameTotals

def keys : List String := ["rx_frames", "tx_frames"]

def toJson (t : FrameTotals) : String :=
  "\x7b\"rx_frames\":" ++ toString t.received.toNat ++
    ",\"tx_frames\":" ++ toString t.sent.toNat ++ "\x7d"

def count? (v : Json) : Option UInt64 :=
  (v.natural?.filter (· < UInt64.size)).map UInt64.ofNat

def ofJson? (s : String) : Option FrameTotals := do
  match ← (← Json.read? s).record? keys with
  | [a, b] => return ⟨← count? a, ← count? b⟩
  | _ => none

end FrameTotals

namespace Device

def encodeField (d : Device) : DeviceField → String
  | .dev => d.dev.text
  | .app => d.app.text
  | .address => if d.address.isZero then "" else d.address.text
  | .sessionKey => d.sessionKey.text
  | .counterUp => toString d.counterUp.toNat
  | .counterDown => toString d.counterDown.toNat
  | .lastSeen => (d.lastSeen.map Rfc3339.write).getD ""
  | .options => d.options.toJson
  | .totals => d.totals.toJson

def readField? (d : Device) (value : String) : DeviceField → Option Device
  | .dev => (Identifier.ofText? _ value).map fun x => { d with dev := x }
  | .app => (Identifier.ofText? _ value).map fun x => { d with app := x }
  | .address => (Identifier.ofText? _ value).map fun x => { d with address := x }
  | .sessionKey => (Identifier.ofText? _ value).map fun x => { d with sessionKey := x }
  | .counterUp => (Numeral.uint32? value).map fun n => { d with counterUp := n }
  | .counterDown => (Numeral.uint32? value).map fun n => { d with counterDown := n }
  | .lastSeen => (Rfc3339.read? value).map fun t => { d with lastSeen := some t }
  | .options => (DeviceOptions.ofJson? value).map fun o => { d with options := o }
  | .totals => (FrameTotals.ofJson? value).map fun t => { d with totals := t }

def decodeField (d : Device) (f : DeviceField) (value : String) : Except StoreError Device :=
  if value = "" then .ok d
  else match d.readField? value f with
    | some d => .ok d
    | none => .error (.invalidField f.name value)

/-- A change of a device in steps. What was done before a step that fails is not taken back. -/
abbrev Edit := ExceptT StoreError (StateM Device)

def assign {α : Type} (f : DeviceField) (value : String) (read : Option α)
    (put : α → Device → Device) : Edit Unit :=
  match read with
  | some a => modify (put a)
  | none => throw (.invalidField f.name value)

def readInto (f : DeviceField) (value : String) : Edit Unit :=
  match f with
  | .dev => assign f value (Identifier.ofText? _ value) fun x d => { d with dev := x }
  | .app => assign f value (Identifier.ofText? _ value) fun x d => { d with app := x }
  | .address => assign f value (Identifier.ofText? _ value) fun x d => { d with address := x }
  | .sessionKey => assign f value (Identifier.ofText? _ value) fun x d => { d with sessionKey := x }
  | .counterUp => assign f value (Numeral.uint32? value) fun n d => { d with counterUp := n }
  | .counterDown => assign f value (Numeral.uint32? value) fun n d => { d with counterDown := n }
  | .lastSeen => assign f value (Rfc3339.read? value) fun t d => { d with lastSeen := some t }
  | .options => assign f value (DeviceOptions.ofJson? value) fun o d => { d with options := o }
  | .totals => assign f value (FrameTotals.ofJson? value) fun t d => { d with totals := t }

/-- The same as `decodeField`, done to the device itself, which is there afterwards in any case. -/
def decodeInPlace (d : Device) (f : DeviceField) (value : String) : Reply Device StoreError Unit :=
  if value = "" then ⟨.ok (), d⟩
  else
    let (answer, after) := (readInto f value).run.run d
    ⟨answer, after⟩

def toFields (d : Device) (fields : List DeviceField) : FieldMap :=
  (DeviceField.orAll fields).foldl (fun m f => m.insert f.name (d.encodeField f)) ∅

/-- A device from stored texts, read in the order of their names. Unknown names are passed over. -/
def ofFields (m : FieldMap) : Except StoreError Device :=
  m.toList.foldlM (fun d e =>
    match DeviceField.ofName? e.1 with
    | some f => d.decodeField f e.2
    | none => .ok d) blank

end Device

end LorawanRouting
