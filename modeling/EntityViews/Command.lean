import EntityViews.Journal
import EntityViews.Manifest.File
import EntityViews.Json.Printer

/-! Commands on manifests: print a view of a model, print its entity, check all models.
-/

namespace EntityViews

/-- A command with its arguments. -/
inductive Command where
  | schema (manifest model : String) (view : View) (qualifier : Option String)
  | entity (manifest model : String)
  | check (manifest : String)
deriving DecidableEq, Repr

/-- Why a command fails. -/
inductive CommandError where
  | manifest (problem : ManifestFileError)
  | model (problem : Halt)
  /-- Some of the models fail a check, each for a reason. -/
  | failures (failed : List (String × Halt)) (total : Nat)
deriving DecidableEq, Repr

def Halt.description : Halt → String
  | .refused problem => problem.description
  | .endless => "the expansion of the view does not end"

/-- The line of a check about a model that fails. -/
def CommandError.failureText (failure : String × Halt) : String :=
  failure.1 ++ ": " ++ failure.2.description

def CommandError.message : CommandError → String
  | .manifest problem => problem.message
  | .model problem => problem.description
  | .failures failed total =>
      s!"{failed.length} of {total} models failed\n"
        ++ "\n".intercalate (failed.map CommandError.failureText)

namespace Command

def manifestPath : Command → String
  | .schema path .. => path
  | .entity path _ => path
  | .check path => path

def loadRegistry (files : Files) (path : String) : Attempt CommandError Registry := do
  match Manifest.ofFile files path with
  | .error problem => throw (.manifest problem)
  | .ok manifest =>
      let (registry, outcome) ← Work.registerManifest manifest 0 .empty
      match outcome with
      | .ok _ => return registry
      | .error problem => throw (.model (.refused problem))

def findModel (registry : Registry) (name : String) : Attempt CommandError Model :=
  match registry.get name with
  | .ok model => return model
  | .error problem => throw (.model (.refused problem))

/-- Checks that a model compiles and that each of its views can be generated, the base views
first.
-/
def checkModel (registry : Registry) (settings : ViewSettings) (model : Model)
    : Attempt Halt Unit := do
  let _ ← (Work.definition model).adapt Halt.refused
  View.all.forM fun view => do
    let _ ← Work.view registry settings view model none

/-- Checks models one after another and gathers those that fail, with the reason. -/
def checkModels (registry : Registry) (settings : ViewSettings)
    : List Model → Work (List (String × Halt))
  | [] => return []
  | model :: rest => do
      match ← (checkModel registry settings model).run with
      | .ok _ =>
          Work.note [.modelPassed model.name]
          checkModels registry settings rest
      | .error problem =>
          return (model.name, problem) :: (← checkModels registry settings rest)

def run (files : Files) (settings : ViewSettings) : Command → Attempt CommandError String
  | .schema path name view qualifier => do
      let registry ← loadRegistry files path
      let model ← findModel registry name
      let document ←
        (Work.view registry settings view model qualifier).adapt CommandError.model
      return document.toJson.pretty
  | .entity path name => do
      let registry ← loadRegistry files path
      let model ← findModel registry name
      let entity ←
        (Work.entity model).adapt fun problem => CommandError.model (.refused problem)
      return entity.toJson.pretty
  | .check path => do
      let registry ← loadRegistry files path
      match ← checkModels registry settings registry.models with
      | [] => return s!"{registry.size} models ok"
      | failed => throw (.failures failed registry.size)

end Command

end EntityViews
