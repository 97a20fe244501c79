import LorawanRouting.Config.File
import LorawanRouting.Text.Numeral

/-!
Finding the configuration: the file at the configuration path if there is one, the defaults if
there is none, and over either the variables of the environment, each of which sets one value and
is passed over when it does not make sense.
-/

namespace LorawanRouting

/-- What is found at a path: nothing, though a file could or could not be made there, a file with
its text, or something that no text can be read from, such as a directory. -/
inductive PathEntry
  | vacant
  | blocked
  | unreadable
  | file (text : String)
  deriving DecidableEq, Repr

inductive ConfigError
  | readFailed (path : String)
  | parseFailed (path : String)
  | writeFailed (path : String)
  deriving DecidableEq, Repr

namespace Config

def override (env : Environment) (c : Config) : Config where
  requestTimeoutMs := (env.requestTimeout.bind Numeral.uint64?).getD c.requestTimeoutMs
  downlinkBuffer := c.downlinkBuffer
  streamBuffer := (env.streamBuffer.bind Numeral.uint64?).getD c.streamBuffer
  storage := (env.backend.bind StorageKind.ofName?).getD c.storage
  databasePath := env.databasePath.getD c.databasePath

def base (env : Environment) : PathEntry → Except ConfigError Config
  | .vacant | .blocked => .ok (default env)
  | .unreadable => .error (.readFailed env.configPath)
  | .file text =>
    match ofText? (default env) text with
    | some c => .ok c
    | none => .error (.parseFailed env.configPath)

def load (env : Environment) (found : PathEntry) : Except ConfigError Config :=
  (base env found).map (override env)

/-- Writes the defaults where nothing is found yet. Answers with the path, and says what is found
there afterwards. -/
def writeDefault (env : Environment) : PathEntry → Except ConfigError String × PathEntry
  | .vacant => (.ok env.configPath, .file (default env).toText)
  | .blocked => (.error (.writeFailed env.configPath), .blocked)
  | found => (.ok env.configPath, found)

end Config

end LorawanRouting
