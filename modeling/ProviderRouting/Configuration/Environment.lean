import ProviderRouting.Files.Path
import ProviderRouting.Table

/-!
# The environment of a process

The environment gives texts to names of variables.  It also tells where a user's settings and data
have their place.
-/

namespace ProviderRouting

/-- What a process finds around it. -/
structure Environment where
  /-- The variables that are set. -/
  values : Table String
  /-- The home folder that the system knows for the user. -/
  accountHome : Option String
deriving Inhabited

namespace Environment

/-- The value of a variable. -/
def get? (environment : Environment) (name : String) : Option String :=
  environment.values.get? name

/-- The names of the variables that anything looks at. -/
def variableNames : List String :=
  ["GATEWAY_CONFIG", "GATEWAY_CATALOG_PATH", "GATEWAY_MAX_RETRIES",
    "GATEWAY_BREAKER_FAILURE_THRESHOLD", "GATEWAY_BREAKER_TIMEOUT_SECS", "GATEWAY_STORE_ENABLED",
    "GATEWAY_STORE_PATH", "HOME", "XDG_CONFIG_HOME", "XDG_DATA_HOME", "TMPDIR"]

/-- The home folder: the variable counts unless it is empty. -/
def home? (environment : Environment) : Option String :=
  match environment.get? "HOME" with
  | some path => if path = "" then environment.accountHome else some path
  | none => environment.accountHome

/-- A base folder: a variable counts if it holds an absolute path, else the place below the home
folder. -/
def base? (environment : Environment) (variableName below : String) : Option String :=
  match (environment.get? variableName).filter Path.isAbsolute with
  | some path => some path
  | none => environment.home?.map (Path.join · below)

/-- Where settings are looked for unless a path is given. -/
def settingsPath? (environment : Environment) : Option String :=
  (environment.base? "XDG_CONFIG_HOME" ".config").map fun base =>
    Path.join (Path.join base "llm-gateway") "gateway.toml"

/-- The folder for temporary files. -/
def temporaryFolder (environment : Environment) : String :=
  (environment.get? "TMPDIR").getD "/tmp"

/-- The folder for data that outlives the process. -/
def dataFolder (environment : Environment) : String :=
  Path.join
    ((environment.base? "XDG_DATA_HOME" ".local/share").getD environment.temporaryFolder)
    "llm-gateway"

end Environment

end ProviderRouting
