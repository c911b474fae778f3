import EntityViews.CommandLine
import EntityViews.Settings.File

/-! One run of the program: from its arguments, its environment and the files it may read to
what it prints.
-/

namespace EntityViews

/-- A line of the error output. -/
inductive Notice where
  | entry (entry : Log.Entry) (format : Log.LineFormat)
  | message (text : String)
deriving DecidableEq, Repr

def Notice.text (time : Log.Timestamp) : Notice → String
  | .entry logged format => logged.line time format
  | .message text => text

/-- What a run prints, and its exit code. -/
structure RunResult where
  exitCode : Nat
  output : String
  notices : List Notice
deriving DecidableEq, Repr, Inhabited

/-- Why a run fails before its command is carried out. -/
inductive StartError where
  | settingsFile (problem : SettingsFileError)
  | settings (problem : SettingsError)
deriving DecidableEq, Repr

def StartError.message : StartError → String
  | .settingsFile problem => problem.message
  | .settings problem => s!"invalid configuration: {problem.message}"

def versionText : String := "schemata 0.1.2"

def usageText : String :=
  "\n".intercalate
    [
      "Declarative model schema compiler",
      "",
      "Usage: schemata [--config PATH] COMMAND",
      "",
      "Commands:",
      "  schema MANIFEST MODEL [--view VIEW] [--prefix PREFIX]",
      "      Print one JSON Schema view of a model",
      "  entity MANIFEST MODEL",
      "      Print the normalized entity definition of a model",
      "  check MANIFEST",
      "      Normalize every model and generate all of its views",
      "",
      "Views: create, update, full, form-create, form-update"
    ]

/-- The settings of a run. Settings that cannot be used are refused. -/
def loadSettings (files : Files) (environment : Environment) (path? : Option String)
    : Except StartError Settings :=
  match Settings.loadFrom files environment path? with
  | .error problem => .error (.settingsFile problem)
  | .ok (settings, _) =>
      match settings.validate with
      | .error problem => .error (.settings problem)
      | .ok _ => .ok settings

/-- The limit of the events to show: the environment may override the settings, also to show
none.
-/
def shownLimit (environment : Environment) (level : Log.Severity) : Option Log.Severity :=
  match environment.logFilter? with
  | none => some level
  | some text =>
      let word := Text.lower (Text.trim text)
      if word = "off" then none
      else some ((Log.Severity.all.find? fun level => level.name == word).getD level)

/-- The notices of events as severe as the limit. -/
def shownEvents (limit : Option Log.Severity) (format : Log.LineFormat) (events : List Event)
    : List Notice :=
  match limit with
  | none => []
  | some limit =>
      (events.filter fun event => event.severity.reaches limit).map fun event =>
        .entry event.entry format

def RunResult.failure (notices : List Notice) (message : String) : RunResult :=
  ⟨1, "", notices ++ [.message ("Error: " ++ message)]⟩

/-- A command carried out with settings that can be used. -/
def Command.carryOut (files : Files) (environment : Environment) (views : ViewSettings)
    (plan : LogPlan) (command : Command)
    : RunResult :=
  let (outcome, journal) := (command.run files views).run {}
  let notices := shownEvents (shownLimit environment plan.level) plan.format journal.events
  match outcome with
  | .ok output => ⟨0, output ++ "\n", notices⟩
  | .error problem => .failure notices problem.message

def runCommand (files : Files) (environment : Environment) (path? : Option String)
    (command : Command)
    : RunResult :=
  match loadSettings files environment path? with
  | .error problem => .failure [] problem.message
  | .ok settings =>
      match settings.log.plan with
      | .error problem => .failure [] problem.message
      | .ok plan => command.carryOut files environment settings.views plan

def runProgram (files : Files) (environment : Environment) (arguments : List String)
    : RunResult :=
  match CommandLine.read arguments with
  | .error problem => ⟨2, "", [.message ("error: " ++ problem.message)]⟩
  | .ok .help => ⟨0, usageText ++ "\n", []⟩
  | .ok .version => ⟨0, versionText ++ "\n", []⟩
  | .ok (.run path? command) => runCommand files environment path? command

end EntityViews
