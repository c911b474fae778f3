import EntityViews.Json.Printer
import EntityViews.Log.Severity
import EntityViews.Log.Timestamp

/-! Log lines in one of three forms.
-/

namespace EntityViews.Log

/-- The forms of a log line. -/
inductive LineFormat where
  /-- A JSON object. -/
  | json
  /-- Text for readers. -/
  | human
  /-- Keys with values after an equals sign. -/
  | logfmt
deriving DecidableEq, Repr, Inhabited

/-- The form a word names, in any case and with blanks around it. -/
def LineFormat.parse? (word : String) : Option LineFormat :=
  match Text.lower (Text.trim word) with
  | "json" => some .json
  | "human" => some .human
  | "text" => some .human
  | "logfmt" => some .logfmt
  | _ => none

/-- What a log line says. -/
structure Entry where
  severity : Severity
  target : String
  message : String
deriving DecidableEq, Repr, Inhabited

def LineFormat.stamp : LineFormat → Timestamp → String
  | .json => Timestamp.exact
  | .human => Timestamp.readable
  | .logfmt => Timestamp.exact

/-- A message with a backslash before each quote. -/
def escapeQuotes (message : String) : String :=
  String.ofList (message.toList.flatMap fun c => if c = '"' then ['\\', '"'] else [c])

/-- A level filled up with blanks to five columns. -/
def paddedLabel (severity : Severity) : String :=
  String.ofList (severity.label.toList ++ List.replicate (5 - severity.label.length) ' ')

/-- The line of an entry with the time written as given. -/
def Entry.lineWith (entry : Entry) (stamp : String) : LineFormat → String
  | .json =>
      Json.compact (.object
        [
          ("timestamp", .string stamp),
          ("level", .string entry.severity.label),
          ("target", .string entry.target),
          ("message", .string entry.message)
        ])
  | .human => s!"{stamp} {paddedLabel entry.severity} [{entry.target}] {entry.message}"
  | .logfmt =>
      s!"timestamp={stamp} level={entry.severity.label} target={entry.target} message="
        ++ "\"" ++ escapeQuotes entry.message ++ "\""

def Entry.line (entry : Entry) (time : Timestamp) (format : LineFormat) : String :=
  entry.lineWith (format.stamp time) format

end EntityViews.Log
