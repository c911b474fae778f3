import EntityViews.Text.Blank

/-! How severe an event is.
-/

namespace EntityViews.Log

/-- Levels of severity, the most severe first. -/
inductive Severity where
  | error
  | warn
  | info
  | debug
  | trace
deriving DecidableEq, Repr, Inhabited

namespace Severity

/-- Every level, the most severe first. -/
def all : List Severity :=
  [.error, .warn, .info, .debug, .trace]

/-- The place of a level, the most severe first. -/
def rank : Severity → Nat
  | .error => 0
  | .warn => 1
  | .info => 2
  | .debug => 3
  | .trace => 4

def name : Severity → String
  | .error => "error"
  | .warn => "warn"
  | .info => "info"
  | .debug => "debug"
  | .trace => "trace"

def label : Severity → String
  | .error => "ERROR"
  | .warn => "WARN"
  | .info => "INFO"
  | .debug => "DEBUG"
  | .trace => "TRACE"

/-- The level a word names, in any case and with blanks around it. -/
def parse? (word : String) : Option Severity :=
  let word := Text.lower (Text.trim word)
  if word = "warning" then some .warn else all.find? fun level => level.name == word

def reaches (level limit : Severity) : Bool :=
  level.rank ≤ limit.rank

end Severity

end EntityViews.Log
