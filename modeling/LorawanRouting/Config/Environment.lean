/-!
The environment of a process as far as the configuration looks at it, and the paths it leads to.
An explicit file wins over the configuration directory, which wins over the home directory; where
no home is given, the temporary directory serves.
-/

namespace LorawanRouting

structure Environment where
  home : Option String := none
  configHome : Option String := none
  dataHome : Option String := none
  configFile : Option String := none
  requestTimeout : Option String := none
  streamBuffer : Option String := none
  backend : Option String := none
  databasePath : Option String := none

/-- A path below a directory. The empty directory adds nothing, a final slash is not doubled. -/
def joinPath (directory name : String) : String :=
  let cs := directory.toList
  if cs = [] ∨ cs.getLast? = some '/' then directory ++ name else directory ++ "/" ++ name

namespace Environment

def homeDirectory (env : Environment) : String := env.home.getD "/tmp"

def configDirectory (env : Environment) : String :=
  joinPath (env.configHome.getD (joinPath env.homeDirectory ".config")) "lora"

def dataDirectory (env : Environment) : String :=
  joinPath (env.dataHome.getD (joinPath (joinPath env.homeDirectory ".local") "share")) "lora"

def configPath (env : Environment) : String :=
  env.configFile.getD (joinPath env.configDirectory "config.toml")

def defaultDatabasePath (env : Environment) : String := joinPath env.dataDirectory "store.db"

end Environment

end LorawanRouting
