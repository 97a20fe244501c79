import LorawanRouting.Config.Basic
import LorawanRouting.Toml.Reader
import LorawanRouting.Toml.Writer

/-!
The configuration as a TOML text of three sections. Keys that are missing keep their defaults and
keys that are unknown are passed over, but a known key must have a value of its kind. A section may
also be an array of its values in order.
-/

namespace LorawanRouting.Config

open Toml (Value Entries)

/-- The settings of a section by name; the order of the names is that of a section given as array. -/
def settings? (names : List String) : Value → Option (String → Option Value)
  | .table _ entries => some fun name => entries.lookup name
  | .array items => some fun name => items[names.idxOf name]?
  | .tables members => some fun name => (members[names.idxOf name]?).map (Value.table .header)
  | .moment => some fun _ => none
  | _ => none

def number? : Value → Option UInt64
  | .integer (.ofNat n) => if n < UInt64.size then some (UInt64.ofNat n) else none
  | _ => none

def text? : Value → Option String
  | .text s => some s
  | _ => none

def isNothing : Value → Bool
  | .array items => items.isEmpty
  | .table _ entries => entries.isEmpty
  | .tables members => members.isEmpty
  | _ => false

def storage? : Value → Option StorageKind
  | .text s => StorageKind.ofName? s
  | .table _ [(name, v)] => if isNothing v then StorageKind.ofName? name else none
  | _ => none

def setting {α : Type} (given : Option Value) (read : Value → Option α) (default : α) :
    Option α :=
  match given with
  | some v => read v
  | none => some default

def section? (names : List String) (root : Entries) (name : String) :
    Option (String → Option Value) :=
  match root.lookup name with
  | some v => settings? names v
  | none => some fun _ => none

def ofEntries? (default : Config) (root : Entries) : Option Config := do
  let router ← section? ["request_timeout_ms", "downlink_buffer"] root "router"
  let broker ← section? ["stream_buffer"] root "broker"
  let store ← section? ["backend", "sqlite_path"] root "store"
  return {
    requestTimeoutMs :=
      ← setting (router "request_timeout_ms") number? default.requestTimeoutMs
    downlinkBuffer := ← setting (router "downlink_buffer") number? default.downlinkBuffer
    streamBuffer := ← setting (broker "stream_buffer") number? default.streamBuffer
    storage := ← setting (store "backend") storage? default.storage
    databasePath := ← setting (store "sqlite_path") text? default.databasePath }

def ofText? (default : Config) (text : String) : Option Config :=
  (Toml.read? text).bind (ofEntries? default)

def toText (c : Config) : String :=
  Toml.writeHeader "router" ++
  Toml.writeEntry "request_timeout_ms" (toString c.requestTimeoutMs.toNat) ++
  Toml.writeEntry "downlink_buffer" (toString c.downlinkBuffer.toNat) ++ "\n" ++
  Toml.writeHeader "broker" ++
  Toml.writeEntry "stream_buffer" (toString c.streamBuffer.toNat) ++ "\n" ++
  Toml.writeHeader "store" ++
  Toml.writeEntry "backend" (Toml.writeString c.storage.name) ++
  Toml.writeEntry "sqlite_path" (Toml.writeString c.databasePath)

end LorawanRouting.Config
