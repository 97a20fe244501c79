import LorawanRouting.Config.Environment

/-!
The settings of the routing core: how long a request may take, how many messages a stream holds,
and where devices are stored.
-/

namespace LorawanRouting

inductive StorageKind
  | memory
  | database
  deriving DecidableEq, Repr

def StorageKind.name : StorageKind → String
  | .memory => "memory"
  | .database => "sqlite"

def StorageKind.ofName? : String → Option StorageKind
  | "memory" => some .memory
  | "sqlite" => some .database
  | _ => none

structure Config where
  requestTimeoutMs : UInt64
  downlinkBuffer : UInt64
  streamBuffer : UInt64
  storage : StorageKind
  databasePath : String
  deriving DecidableEq, Repr

namespace Config

def default (env : Environment) : Config where
  requestTimeoutMs := 5000
  downlinkBuffer := 32
  streamBuffer := 64
  storage := .memory
  databasePath := env.defaultDatabasePath

def requestTimeout (c : Config) : Nat × Nat :=
  (c.requestTimeoutMs.toNat / 1000, c.requestTimeoutMs.toNat % 1000)

end Config

end LorawanRouting
