import EntityViews.Model

/-! The registry of models, in order of registration.
Each name belongs to the first model registered under it; relations are resolved by name.
-/

namespace EntityViews

/-- The registered models, each under its own name. -/
structure Registry where
  byName : OrderedMap Model
  named : ∀ entry ∈ byName.entries, entry.1 = entry.2.name

namespace Registry

def empty : Registry :=
  ⟨.empty, by simp⟩

instance : Inhabited Registry := ⟨empty⟩

/-- The registered models under their names, in order. -/
def all (registry : Registry) : OrderedMap Model :=
  registry.byName

/-- The registered models, in order. -/
def models (registry : Registry) : List Model :=
  registry.byName.values

/-- The registered names, in order. -/
def names (registry : Registry) : List String :=
  registry.byName.names

def size (registry : Registry) : Nat :=
  registry.byName.size

def isEmpty (registry : Registry) : Bool :=
  registry.byName.isEmpty

/-- The model of a name, if there is one. -/
def find? (registry : Registry) (name : String) : Option Model :=
  registry.byName.get? name

def contains (registry : Registry) (name : String) : Bool :=
  registry.byName.contains name

def get (registry : Registry) (name : String) : Except SchemaError Model :=
  match registry.find? name with
  | some model => .ok model
  | none => .error (.unknownModel name)

/-- The registry with a model under the model's own name. -/
def insert (registry : Registry) (model : Model) : Registry :=
  {
    byName := registry.byName.insert model.name model,
    named := by
      intro entry member
      rcases Members.mem_put member with earlier | rfl
      · exact registry.named entry earlier
      · rfl
  }

/-- The registry with one more model at its end, if the name is free. -/
def register (registry : Registry) (model : Model) : Except SchemaError Registry :=
  if registry.contains model.name then .error (.duplicateModel model.name)
  else .ok (registry.insert model)

/-- The registry with a model of the given parts at its end, if the name is free. -/
def define (registry : Registry) (serial : Nat) (name : String) (fields : Fields)
    (options : EntityOptions)
    : Except SchemaError Registry :=
  registry.register ⟨serial, name, fields, options⟩

/-- The registry with every model forgotten. -/
def reset (_ : Registry) : Registry :=
  empty

/-- Registers models in order and stops at the first whose name is taken. The models before it
stay registered.
-/
def registerAll (registry : Registry) : List Model → Registry × Except SchemaError Unit
  | [] => (registry, .ok ())
  | model :: rest =>
      match registry.register model with
      | .ok extended => extended.registerAll rest
      | .error problem => (registry, .error problem)

section Queries

variable {m : Type → Type} [Monad m] [MonadExceptOf SchemaError m]

/-- The entities of all models in order of registration, with the definitions that `define`
supplies.
-/
def entitiesWith (define : Model → m EntityDefinition) (registry : Registry)
    : m (List Entity) :=
  registry.models.mapM fun model => do return model.entityOf (← define model)

/-- Checks that a relation points to a registered model. -/
def checkTarget (registry : Registry) (target : String) : m Unit :=
  if registry.contains target then pure () else throw (.unknownModel target)

/-- Checks that a model compiles and that its relations point to registered models. -/
def checkModelWith (define : Model → m EntityDefinition) (registry : Registry) (model : Model)
    : m Unit := do
  let definition ← define model
  definition.relations.values.forM fun relation => registry.checkTarget relation.target

/-- Checks every model, in order of registration. -/
def checkIntegrityWith (define : Model → m EntityDefinition) (registry : Registry) : m Unit :=
  registry.models.forM (registry.checkModelWith define)

/-- For every registered name in order of registration, the names that the relations of its model
point to.
-/
def dependenciesWith (define : Model → m EntityDefinition) (registry : Registry)
    : m (List (String × List String)) :=
  registry.byName.entries.mapM fun (name, model) => do
    let definition ← define model
    return (name, definition.relations.values.map RelationDescriptor.target)

end Queries

/-- The entities of all models, in order of registration. -/
def entities (registry : Registry) : Except SchemaError (List Entity) :=
  registry.entitiesWith Model.definition

/-- Checks every model, in order of registration. -/
def checkIntegrity (registry : Registry) : Except SchemaError Unit :=
  registry.checkIntegrityWith Model.definition

/-- For every registered name in order of registration, the names that the relations of its model
point to.
-/
def dependencies (registry : Registry) : Except SchemaError (List (String × List String)) :=
  registry.dependenciesWith Model.definition

end Registry

end EntityViews
