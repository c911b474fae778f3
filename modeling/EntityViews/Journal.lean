import EntityViews.View.Form
import EntityViews.Manifest
import EntityViews.Log.Event

/-! Work on models, and what it leaves behind.
A model is compiled at most once unless it fails to compile, and keeps the first repository that
is attached to it. The journal holds both, and the events worth noting in their order.
-/

namespace EntityViews

/-- A handle on the stored records of an entity. -/
structure Repository where
  entityName : String
deriving DecidableEq, Repr, Inhabited

/-- A database layer: it makes a repository for an entity or says why it cannot. -/
abbrev DatabaseLayer := Entity → Except String Repository

/-- What is known of a model beyond its declaration. -/
structure ModelState where
  definition? : Option EntityDefinition := none
  repository? : Option Repository := none
deriving Inhabited

/-- The states of models by serial number, and the events so far. -/
structure Journal where
  states : List (Nat × ModelState) := []
  events : List Event := []
  /-- The entities that database layers have been asked to make repositories for, in order. -/
  requests : List Entity := []
deriving Inhabited

/-- Why no repository is attached. -/
inductive AttachError where
  | refused (problem : SchemaError)
  /-- The database layer has failed, with these words. -/
  | layer (words : String)
deriving DecidableEq, Repr

namespace Journal

def stateOf (journal : Journal) (model : Model) : ModelState :=
  (journal.states.lookup model.serial).getD {}

def setState (journal : Journal) (model : Model) (state : ModelState) : Journal :=
  {
    journal with
    states := (model.serial, state) :: journal.states.filter fun entry =>
      entry.1 != model.serial
  }

def note (journal : Journal) (events : List Event) : Journal :=
  { journal with events := journal.events ++ events }

def request (journal : Journal) (entity : Entity) : Journal :=
  { journal with requests := journal.requests ++ [entity] }

/-- The definition of a model, from its state if it has been compiled before. -/
def define (journal : Journal) (model : Model) : Except SchemaError EntityDefinition :=
  match (journal.stateOf model).definition? with
  | some definition => .ok definition
  | none => model.definition

/-- The journal after the definition of a model has been asked for. -/
def afterDefining (journal : Journal) (model : Model) : Journal :=
  match (journal.stateOf model).definition? with
  | some _ => journal
  | none =>
      match model.definition with
      | .ok definition =>
          (journal.setState model
            { journal.stateOf model with definition? := some definition }).note
            [.normalized model.name definition.columns.size definition.relations.size]
      | .error _ => journal

/-- The journal after the steps of an expansion. Of the models that stand below themselves only
the first is noted.
-/
def afterSteps (journal : Journal) (reported : Bool) : List Step → Journal
  | [] => journal
  | .defined model :: rest => (journal.afterDefining model).afterSteps reported rest
  | .reentered kind path model :: rest =>
      if reported then journal.afterSteps reported rest
      else (journal.note [.reentered kind path model]).afterSteps true rest
  | .generated kind model depth properties :: rest =>
      (journal.note [.generated kind model depth properties]).afterSteps reported rest

end Journal

/-- Work that reads and extends a journal. -/
abbrev Work := StateM Journal

/-- Work that may fail; what the journal holds by then stays in it. -/
abbrev Attempt (ε : Type) := ExceptT ε Work

namespace Work

def note (events : List Event) : Work Unit :=
  modify fun journal => journal.note events

def definition (model : Model) : Attempt SchemaError EntityDefinition := fun journal =>
  (journal.define model, journal.afterDefining model)

def entity (model : Model) : Attempt SchemaError Entity := do
  return model.entityOf (← definition model)

def entities (registry : Registry) : Attempt SchemaError (List Entity) :=
  registry.entitiesWith definition

def checkIntegrity (registry : Registry) : Attempt SchemaError Unit :=
  registry.checkIntegrityWith definition

/-- For every model of a registry, the names its relations point to. -/
def dependencies (registry : Registry) : Attempt SchemaError (List (String × List String)) :=
  registry.dependenciesWith definition

def view (registry : Registry) (settings : ViewSettings) (view : View) (model : Model)
    (qualifier : Option String)
    : Attempt Halt Document := fun journal =>
  let traced := view.generateWith journal.define registry settings model qualifier
  (traced.outcome, journal.afterSteps false traced.steps)

/-- Registers models in order, up to the first whose name is taken. -/
def registerAll (registry : Registry) (models : List Model)
    : Work (Registry × Except SchemaError Unit) := do
  let (extended, outcome) := registry.registerAll models
  note ((extended.names.drop registry.size).map Event.registered)
  return (extended, outcome)

/-- Registers the models of a manifest in order, up to the first whose name is taken. -/
def registerManifest (manifest : Manifest) (serial : Nat) (registry : Registry)
    : Work (Registry × Except SchemaError Unit) := do
  let (extended, outcome) ← registerAll registry (manifest.modelsFrom serial)
  if outcome.isOk then note [.manifestRegistered manifest.models.size]
  return (extended, outcome)

/-- The repository of a model, once one is attached. -/
def repository (model : Model) : Attempt SchemaError Repository := do
  match ((← get).stateOf model).repository? with
  | some repository => return repository
  | none => throw (.repositoryNotReady model.name)

/-- Asks a layer for a repository for an entity. -/
def ask (layer : DatabaseLayer) (entity : Entity) : Work (Except String Repository) := do
  modify fun journal => journal.request entity
  return layer entity

/-- Attaches the repository that a layer makes for the entity of a model. A model keeps the
repository it has, and the layer is not asked for another one.
-/
def attach (layer : DatabaseLayer) (model : Model) : Attempt AttachError Repository := do
  match ((← get).stateOf model).repository? with
  | some repository =>
      note [.repositoryKept model.name]
      return repository
  | none =>
      let entity ← (entity model).adapt AttachError.refused
      match ← ask layer entity with
      | .error words => throw (.layer words)
      | .ok repository =>
          note [.repositoryAttached model.name]
          modify fun journal =>
            journal.setState model
              { journal.stateOf model with repository? := some repository }
          return repository

end Work

end EntityViews
