import EntityViews.Source.Text
import EntityViews.Source.Reader
import EntityViews.View.Form
import EntityViews.Log.Event

/-! Settings: how views are generated and how events are logged.
A file may give any of them, and the environment overrides what the file says.
-/

namespace EntityViews

/-- How events are logged, in the words of the user. -/
structure LogSettings where
  level : String := "warn"
  format : String := "human"
deriving DecidableEq, Repr, Inhabited

/-- All settings. -/
structure Settings where
  views : ViewSettings := {}
  log : LogSettings := {}
deriving DecidableEq, Repr, Inhabited

/-- How events are logged, as the words are understood. -/
structure LogPlan where
  level : Log.Severity := .warn
  format : Log.LineFormat := .human
deriving DecidableEq, Repr, Inhabited

/-- Much output for readers, for work on the models. -/
def LogPlan.development : LogPlan :=
  { level := .debug, format := .human }

/-- Why settings cannot be used. -/
inductive SettingsError where
  | depthZero
  | markBlank
  | unknownLevel (word : String)
  | unknownFormat (word : String)
deriving DecidableEq, Repr

def SettingsError.message : SettingsError → String
  | .depthZero => "schema.max_depth must be at least 1"
  | .markBlank => "schema.file_annotation_key cannot be empty"
  | .unknownLevel word => s!"unknown log level '{word}'"
  | .unknownFormat word => s!"unknown log format '{word}'"

namespace ViewSettings

/-- The settings as JSON; the absence of a limit is written out. -/
def toJson (settings : ViewSettings) : Json :=
  .object
    [
      ("max_depth", (settings.maxDepth?.map Json.natural).getD .null),
      ("file_annotation_key", .string settings.fileMark)
    ]

def record : Source.Record ViewSettings :=
  {
    title := "SchemaConfig",
    strict := false,
    fields := [
      ⟨"max_depth", fun settings source =>
        return { settings with maxDepth? := ← source.readOptional Source.readSize }⟩,
      ⟨"file_annotation_key", fun settings source =>
        return { settings with fileMark := ← source.readText }⟩
    ]
  }

/-- Checks that the limit admits something and that the mark has a name. -/
def validate (settings : ViewSettings) : Except SettingsError Unit :=
  if settings.maxDepth? = some 0 then .error .depthZero
  else if (Text.trim settings.fileMark).isEmpty then .error .markBlank
  else .ok ()

end ViewSettings

namespace LogSettings

def toJson (settings : LogSettings) : Json :=
  .object [("level", .string settings.level), ("format", .string settings.format)]

def record : Source.Record LogSettings :=
  {
    title := "LoggingConfig",
    strict := false,
    fields := [
      ⟨"level", fun settings source => return { settings with level := ← source.readText }⟩,
      ⟨"format", fun settings source => return { settings with format := ← source.readText }⟩
    ]
  }

def plan (settings : LogSettings) : Except SettingsError LogPlan :=
  match Log.Severity.parse? settings.level with
  | none => .error (.unknownLevel settings.level)
  | some level =>
      match Log.LineFormat.parse? settings.format with
      | none => .error (.unknownFormat settings.format)
      | some format => .ok { level, format }

end LogSettings

/-- The variables of the environment that settings depend on. -/
structure Environment where
  maxDepth? : Option String := none
  fileMark? : Option String := none
  logLevel? : Option String := none
  logFormat? : Option String := none
  /-- The level of the log lines to show, whatever the settings say. -/
  logFilter? : Option String := none
deriving DecidableEq, Repr, Inhabited

def Environment.variables : List String :=
  [
    "SCHEMATA_MAX_DEPTH", "SCHEMATA_FILE_ANNOTATION_KEY", "SCHEMATA_LOG_LEVEL",
    "SCHEMATA_LOG_FORMAT", "RUST_LOG"
  ]

/-- The environment in which variables have the given values. -/
def Environment.ofLookup (value? : String → Option String) : Environment :=
  {
    maxDepth? := value? "SCHEMATA_MAX_DEPTH",
    fileMark? := value? "SCHEMATA_FILE_ANNOTATION_KEY",
    logLevel? := value? "SCHEMATA_LOG_LEVEL",
    logFormat? := value? "SCHEMATA_LOG_FORMAT",
    logFilter? := value? "RUST_LOG"
  }

/-- The number that decimal digits write, if there are any and it fits 64 bits. -/
def decimalSize? (digits : List Char) : Option Nat :=
  if digits.isEmpty ∨ !digits.all Char.isDigit then none
  else
    let value := Text.numberOf 10 digits
    if value < Nat.pow 2 64 then some value else none

/-- The number a word writes in decimal digits, perhaps behind a plus, if it fits 64 bits. -/
def parseSize? (word : String) : Option Nat :=
  match word.toList with
  | '+' :: digits => decimalSize? digits
  | digits => decimalSize? digits

/-- The view settings under an environment; a depth that is no number is noted and ignored. -/
def ViewSettings.under (settings : ViewSettings) (environment : Environment)
    : ViewSettings × List Event :=
  let settings := {
    settings with
    fileMark := environment.fileMark?.getD settings.fileMark
  }
  match environment.maxDepth? with
  | none => (settings, [])
  | some word =>
      match parseSize? word with
      | some depth => ({ settings with maxDepth? := some depth }, [])
      | none => (settings, [.depthIgnored word])

def LogSettings.under (settings : LogSettings) (environment : Environment) : LogSettings :=
  {
    level := environment.logLevel?.getD settings.level,
    format := environment.logFormat?.getD settings.format
  }

/-- The view settings with those of a further source over them, which gives them all. -/
def ViewSettings.merge (_ further : ViewSettings) : ViewSettings := further

/-- The log settings with those of a further source over them, which gives them all. -/
def LogSettings.merge (_ further : LogSettings) : LogSettings := further

namespace Settings

def toJson (settings : Settings) : Json :=
  .object [("schema", settings.views.toJson), ("logging", settings.log.toJson)]

def record : Source.Record Settings :=
  {
    title := "SchemataConfig",
    strict := false,
    fields := [
      ⟨"schema", fun settings source =>
        return { settings with views := ← ViewSettings.record.read .toml {} source }⟩,
      ⟨"logging", fun settings source =>
        return { settings with log := ← LogSettings.record.read .toml {} source }⟩
    ]
  }

/-- The settings that a TOML text gives; what it leaves out stays at its default. -/
def ofText (text : String) : Except Fault Settings :=
  (Reading.ofText .toml text).decode (record.read .toml {})

/-- The settings with those of a further source over them. -/
def merge (settings further : Settings) : Settings :=
  { views := settings.views.merge further.views, log := settings.log.merge further.log }

/-- A further source leaves nothing of the settings before it, since each part replaces the one
before.
-/
@[simp]
theorem merge_eq (settings further : Settings) : settings.merge further = further := rfl

/-- The settings under an environment, and what is to be noted about it. -/
def under (settings : Settings) (environment : Environment) : Settings × List Event :=
  let (views, events) := settings.views.under environment
  ({ views, log := settings.log.under environment }, events)

/-- Checks all settings, those of the views first. -/
def validate (settings : Settings) : Except SettingsError Unit := do
  settings.views.validate
  let _ ← settings.log.plan
  return ()

end Settings

end EntityViews
