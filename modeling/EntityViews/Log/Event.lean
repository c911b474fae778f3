import EntityViews.Log.Entry
import EntityViews.SchemaError
import EntityViews.View

/-! What is worth a log line.
-/

namespace EntityViews

/-- An event worth noting. -/
inductive Event where
  | registered (model : String)
  | manifestRegistered (models : Nat)
  | normalized (model : String) (columns relations : Nat)
  | generated (kind : ViewKind) (model : String) (depth properties : Nat)
  /-- A model stands below itself in a view that nothing limits; the path leads to it. -/
  | reentered (kind : ViewKind) (path : List String) (model : String)
  | repositoryAttached (model : String)
  | repositoryKept (model : String)
  /-- The environment sets a depth that is no number. -/
  | depthIgnored (text : String)
  | modelPassed (model : String)
deriving DecidableEq, Repr

namespace Event

def severity : Event → Log.Severity
  | .registered _ => .info
  | .manifestRegistered _ => .debug
  | .normalized .. => .debug
  | .generated .. => .debug
  | .reentered .. => .warn
  | .repositoryAttached _ => .info
  | .repositoryKept _ => .warn
  | .depthIgnored _ => .warn
  | .modelPassed _ => .info

def target : Event → String
  | .registered _ => "schemata_core::registry"
  | .manifestRegistered _ => "schemata_core::manifest"
  | .normalized .. => "schemata_core::schema::normalize"
  | .generated .. => "schemata_core::view::generator"
  | .reentered .. => "schemata_core::view::generator"
  | .repositoryAttached _ => "schemata_core::model"
  | .repositoryKept _ => "schemata_core::model"
  | .depthIgnored _ => "schemata_core::config::schema"
  | .modelPassed _ => "schemata::commands::check"

def message : Event → String
  | .registered model => s!"Registered model '{model}'"
  | .manifestRegistered models => s!"Registered {models} models from manifest"
  | .normalized model columns relations =>
      s!"Normalized model '{model}': {columns} columns, {relations} relations"
  | .generated kind model depth properties =>
      s!"Generated {kind.label} for '{model}' at depth {depth} ({properties} properties)"
  | .reentered kind path model =>
      s!"Model '{model}' re-enters its own {kind.label} expansion "
        ++ s!"({SchemaError.pathText path} -> {model}); "
        ++ "without schema.max_depth this will not terminate"
  | .repositoryAttached model => s!"Attached repository for '{model}'"
  | .repositoryKept model =>
      s!"Repository for '{model}' already attached, keeping the existing one"
  | .depthIgnored text => s!"Ignoring SCHEMATA_MAX_DEPTH={text}: not a number"
  | .modelPassed model => s!"Model '{model}' ok"

def entry (event : Event) : Log.Entry :=
  ⟨event.severity, event.target, event.message⟩

end Event

end EntityViews
