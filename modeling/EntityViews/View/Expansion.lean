import EntityViews.View
import EntityViews.View.Document
import EntityViews.Registry

/-! Expanding a model into the document of a base view.
The targets of followed relations are expanded in turn, depth first and in order of declaration,
so a cycle of followed relations has no end unless a limit refuses it. The expansion keeps a trace
of what it did up to the point where it stopped.
-/

namespace EntityViews

/-- What an expansion does, in order. -/
inductive Step where
  /-- The definition of a model was asked for. -/
  | defined (model : Model)
  /-- A model stands below itself while no limit is set; the path leads to it. -/
  | reentered (kind : ViewKind) (path : List String) (model : String)
  | generated (kind : ViewKind) (model : String) (depth properties : Nat)
deriving Inhabited, BEq

/-- Why an expansion gives no document. -/
inductive Halt where
  | refused (problem : SchemaError)
  /-- The expansion has not ended within its fuel. -/
  | endless
deriving DecidableEq, Repr

/-- The outcome of an expansion and the trace up to there. -/
structure Traced (α : Type) where
  steps : List Step
  outcome : Except Halt α

namespace Traced

/-- Goes on with a value; the steps come one after the other. -/
def andThen {α β : Type} (first : Traced α) (next : α → Traced β) : Traced β :=
  match first.outcome with
  | .ok value =>
      let second := next value
      ⟨first.steps ++ second.steps, second.outcome⟩
  | .error halt => ⟨first.steps, .error halt⟩

instance : Monad Traced where
  pure value := ⟨[], .ok value⟩
  bind := andThen

def step (done : Step) : Traced Unit :=
  ⟨[done], .ok ()⟩

def halt {α : Type} (reason : Halt) : Traced α :=
  ⟨[], .error reason⟩

/-- The value of a computation, or a refusal. -/
def ofExcept {α : Type} : Except SchemaError α → Traced α
  | .ok value => ⟨[], .ok value⟩
  | .error problem => ⟨[], .error (.refused problem)⟩

end Traced

/-- The property of a column by its storage type. -/
def ColumnDescriptor.property (column : ColumnDescriptor) : Property :=
  match JsonType.ofStorage column.storage with
  | .object => .freeForm
  | type => .scalar type

/-- The property of a relation whose target has the given document. -/
def RelationDescriptor.property (relation : RelationDescriptor) (target : Document) : Property :=
  if relation.kind.isToMany then .array (.embedded target.withoutId)
  else .embedded target.withoutId

/-- The properties that a view shows for the columns of a definition. -/
def EntityDefinition.columnProperties (definition : EntityDefinition) (kind : ViewKind)
    : List (String × Property) :=
  (definition.columns.entries.filter fun entry => kind.keeps entry.2).map fun entry =>
    (entry.1, entry.2.property)

def EntityDefinition.followed (definition : EntityDefinition) (kind : ViewKind)
    : List (String × RelationDescriptor) :=
  definition.relations.entries.filter fun entry => kind.follows entry.2

/-- What a view says of a definition, with the properties of the followed relations given.
Properties are put in one after another: columns first, then relations.
-/
def EntityDefinition.document (definition : EntityDefinition) (kind : ViewKind)
    (id? : Option String) (embedded : List (String × Property))
    : Document :=
  {
    id?,
    properties := Members.collapse (definition.columnProperties kind ++ embedded),
    required? := if kind = .create then some definition.requiredColumns else none
  }

/-- The properties for relations, each with the document of its target. -/
def embedAll (registry : Registry) (expandTarget : Model → Traced Document)
    : List (String × RelationDescriptor) → Traced (List (String × Property))
  | [] => pure []
  | (name, relation) :: rest => do
      let target ← .ofExcept (registry.get relation.target)
      let nested ← expandTarget target
      let others ← embedAll registry expandTarget rest
      return (name, relation.property nested) :: others

/-- Refuses a model that stands deeper than the limit, and notes one that stands below itself
while there is no limit.
-/
def guardDepth (limit : Option Nat) (kind : ViewKind) (path : List String) (model : String)
    : Traced Unit :=
  match limit with
  | some depth =>
      if depth < path.length then .halt (.refused (.depthExceeded depth (path ++ [model])))
      else pure ()
  | none => if path.contains model then .step (.reentered kind path model) else pure ()

/-- The document of a view of a model that stands below the models of the path. -/
def expand (define : Model → Except SchemaError EntityDefinition) (registry : Registry)
    (limit : Option Nat) (kind : ViewKind)
    : Nat → List String → Option String → Model → Traced Document
  | 0, _, _, _ => .halt .endless
  | fuel + 1, path, qualifier, model => do
      guardDepth limit kind path model.name
      .step (.defined model)
      let definition ← .ofExcept (define model)
      let embedded ← embedAll registry
        (expand define registry limit kind fuel (path ++ [model.name]) none)
        (definition.followed kind)
      let document := definition.document kind
        (some (schemaId model.name kind.label qualifier)) embedded
      .step (.generated kind model.name path.length document.properties.length)
      return document

/-- Fuel that every expansion which ends gets by with. A limit ends one by itself; without a
limit a path of more models than are registered, and one more, repeats a registered model.
-/
def fuelFor (registry : Registry) : Option Nat → Nat
  | some depth => depth + 2
  | none => registry.size + 2

/-- The document of a base view, with the definitions that `define` supplies. -/
def viewWith (define : Model → Except SchemaError EntityDefinition) (registry : Registry)
    (limit : Option Nat) (kind : ViewKind) (model : Model) (qualifier : Option String)
    : Traced Document :=
  expand define registry limit kind (fuelFor registry limit) [] qualifier model

end EntityViews
