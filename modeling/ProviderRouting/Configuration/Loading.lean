import ProviderRouting.Configuration.Layers
import ProviderRouting.Files.Access
import ProviderRouting.Toml.Reader

/-!
# Loading settings

Settings are loaded by laying the settings file, if it is there, and the environment over the
standard values.  The result must be valid.
-/

namespace ProviderRouting

/-- Why settings cannot be loaded. -/
inductive SettingsFault where
  /-- The settings file cannot be read. -/
  | unreadable (path : String) (fault : FileFault)
  /-- The settings file is not of the right form. -/
  | malformed
  /-- A value is out of its range. -/
  | invalid (fault : SettingFault)

namespace SettingsFault

/-- What went wrong, in words. -/
def message : SettingsFault → String
  | unreadable path fault => "Failed to read config file at " ++ path ++ ": " ++ fault.message
  | malformed => "Failed to parse TOML config"
  | invalid fault => "Invalid configuration: " ++ fault.message

/-- The fault of a file that is behind it. -/
def fileFault? : SettingsFault → Option FileFault
  | unreadable _ fault => some fault
  | _ => none

end SettingsFault

namespace Settings

/-- The settings file that a text writes. -/
def readFile? (text : String) : Option SettingsFile :=
  (Toml.read? text).bind (SettingsFile.decode .toml)

/-- Settings that are valid. -/
def checked (settings : Settings) : Except SettingsFault Settings :=
  match settings.validate with
  | .ok () => .ok settings
  | .error fault => .error (.invalid fault)

/-- The settings that follow from an environment and, if one was read, the path and text of a
settings file. -/
def resolve (environment : Environment) (file : Option (String × String)) :
    Except SettingsFault Settings :=
  match file with
  | none => ((standard environment).withEnvironment environment).checked
  | some (path, text) =>
    match readFile? text with
    | none => .error .malformed
    | some file =>
      (((standard environment).withFile path file).withEnvironment environment).checked

variable {m : Type → Type} [Monad m]

/-- Load the settings; a settings file that is not there sets nothing. -/
def load (files : FileAccess m) (environment : Environment) (path : Option String) :
    m (Except SettingsFault Settings) := do
  match path with
  | none => return resolve environment none
  | some path => do
    if ← files.exists? path then
      match ← files.read path with
      | .ok text => return resolve environment (some (path, text))
      | .error fault => return .error (.unreadable path fault)
    else return resolve environment none

end Settings

end ProviderRouting
