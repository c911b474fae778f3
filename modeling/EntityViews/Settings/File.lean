import EntityViews.Settings
import EntityViews.Files
import EntityViews.Manifest

/-! Settings from files.
The usual file may be absent; a file that is asked for by name may not.
-/

namespace EntityViews

/-- Why a file gives no settings. -/
inductive SettingsFileError where
  | unreadable (path : String) (problem : FileError)
  | unparsable (path : String) (problem : Fault)
  /-- The usual file is there and gives no settings. -/
  | unusable (path : String) (problem : SettingsFileError)
deriving DecidableEq, Repr

namespace SettingsFileError

/-- The wording of an error, outermost context first. -/
def message : SettingsFileError → String
  | .unreadable path problem => s!"Failed to read config file: {path}: {problem.message}"
  | .unparsable path problem =>
      within s!"Failed to parse TOML config: {path}" (problem.message? .toml)
  | .unusable path problem => s!"Failed to load config from {path}: {problem.message}"

end SettingsFileError

namespace Settings

/-- The name of the usual file. -/
def usualFile : String := "schemata.toml"

def ofFile (files : Files) (path : String) : Except SettingsFileError Settings :=
  match (files path).read with
  | .error problem => .error (.unreadable path problem)
  | .ok text =>
      match ofText text with
      | .ok settings => .ok settings
      | .error problem => .error (.unparsable path problem)

/-- The defaults with the settings of a file over them, if it is there. -/
def ofFileIfThere (files : Files) (path : String) : Except SettingsFileError Settings :=
  if (files path).isThere then
    match ofFile files path with
    | .ok settings => .ok (merge {} settings)
    | .error problem => .error (.unusable path problem)
  else .ok {}

/-- The settings of a file that may be absent, under an environment. -/
def load (files : Files) (path : String) (environment : Environment)
    : Except SettingsFileError (Settings × List Event) :=
  (fun settings => settings.under environment) <$> ofFileIfThere files path

/-- The settings of a file that has to be there, under an environment. -/
def loadExplicit (files : Files) (path : String) (environment : Environment)
    : Except SettingsFileError (Settings × List Event) :=
  (fun settings => settings.under environment) <$> ofFile files path

/-- The settings of the file that is asked for, or else those of the usual file, under an
environment.
-/
def loadFrom (files : Files) (environment : Environment)
    : Option String → Except SettingsFileError (Settings × List Event)
  | some path => loadExplicit files path environment
  | none => load files usualFile environment

end Settings

end EntityViews
