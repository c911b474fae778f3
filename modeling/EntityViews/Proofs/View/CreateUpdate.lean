import EntityViews.Proofs.Entity.Exactness
import EntityViews.Proofs.Registry.Lookup
import EntityViews.Proofs.View.Forms
import EntityViews.Proofs.View.Walks
import Mathlib.Logic.Relation

/-! Views for creating records beside those for updating them.
The two show the same columns. Where every relation in reach cascades inserts and updates alike, an
update is shown as a creation in which nothing is required.
-/

namespace EntityViews

mutual

/-- The property with nothing required of the objects in it. -/
def Property.withoutRequired : Property → Property
  | .scalar type => .scalar type
  | .freeForm => .freeForm
  | .embedded object => .embedded (ObjectOf.withoutRequired object)
  | .array items => .array items.withoutRequired
  | .upload mark => .upload mark

/-- The document with nothing required of it or of the objects in it. -/
def ObjectOf.withoutRequired : ObjectOf Property → ObjectOf Property
  | ⟨id?, type, properties, _⟩ => ⟨id?, type, propertiesWithoutRequired properties, none⟩

def propertiesWithoutRequired : List (String × Property) → List (String × Property)
  | [] => []
  | (name, property) :: rest => (name, property.withoutRequired) :: propertiesWithoutRequired rest

end

theorem propertiesWithoutRequired_eq_map (properties : List (String × Property))
    : propertiesWithoutRequired properties
      = properties.map fun entry => (entry.1, entry.2.withoutRequired) := by
  induction properties with
  | nil => rfl
  | cons entry rest ih => rw [propertiesWithoutRequired, ih, List.map_cons]

theorem ObjectOf.withoutRequired_eq (document : Document)
    : document.withoutRequired
      = {
        document with
        properties := document.properties.map fun entry => (entry.1, entry.2.withoutRequired),
        required? := none
      } := by
  rw [withoutRequired, propertiesWithoutRequired_eq_map]

/-- An identifier that is replaced in the end need not be there. -/
theorem ObjectOf.withoutRequired_withId (document : Document) (id other : String)
    : (document.withId id).withoutRequired.withId other
      = document.withoutRequired.withId other := by
  simp only [withoutRequired_eq, withId]

/-- The property of a column requires nothing. -/
theorem ColumnDescriptor.withoutRequired_property (column : ColumnDescriptor)
    : column.property.withoutRequired = column.property := by
  unfold property
  split <;> rfl

/-- The property of a relation requires just what its target does. -/
theorem RelationDescriptor.withoutRequired_property (relation : RelationDescriptor)
    (target : Document)
    : (relation.property target).withoutRequired = relation.property target.withoutRequired := by
  unfold property
  split <;>
    simp only [Property.withoutRequired, ObjectOf.withoutId, ObjectOf.withoutRequired_eq]

/-- Over the same relations an update shows what a creation does, with nothing required. -/
theorem EntityDefinition.document_update (definition : EntityDefinition)
    (embedded : List (String × Property))
    : definition.document .update none
          (embedded.map fun entry => (entry.1, entry.2.withoutRequired))
      = (definition.document .create none embedded).withoutRequired := by
  have columns
      : (definition.columnProperties .create).map
            (fun entry => (entry.1, entry.2.withoutRequired))
        = definition.columnProperties .update := by
    rw [columnProperties, columnProperties, List.map_map]
    refine List.map_congr_left fun entry _ => ?_
    rw [Function.comp_apply, ColumnDescriptor.withoutRequired_property]
  rw [ObjectOf.withoutRequired_eq, document, document, Members.map_collapse, List.map_append,
    columns]
  rfl

/-- A form may upload files before or after requirements are taken from it. -/
theorem EntityDefinition.toForm_withoutRequired (definition : EntityDefinition)
    (mark id other : String) (document : Document)
    : definition.toForm mark id (document.withoutRequired.withId other)
      = (definition.toForm mark other document).withoutRequired.withId id := by
  have entries (entry : String × Property)
      : definition.uploadProperty mark (entry.1, entry.2.withoutRequired)
        = ((definition.uploadProperty mark entry).1,
          (definition.uploadProperty mark entry).2.withoutRequired) := by
    unfold uploadProperty
    cases definition.columns.get? entry.1 with
    | none => rfl
    | some column => cases file : column.isFile <;> simp [file, Property.withoutRequired]
  simp only [toForm, ObjectOf.withId, ObjectOf.withoutRequired_eq, List.map_map,
    Function.comp_def, entries]

/-- The relations of the model cascade updates exactly if they cascade inserts. -/
def Model.CascadesEvenly (model : Model) : Prop :=
  ∀ definition name relation,
    model.definition = .ok definition
    → (name, relation) ∈ definition.relations.entries
    → (relation.cascade.includes .insert ↔ relation.cascade.includes .update)

/-- A relation of the source that cascades inserts or updates points to the target. -/
def CascadesTo (registry : Registry) (source target : Model) : Prop :=
  Follows registry .create source target ∨ Follows registry .update source target

/-- The relations of the model, and of all models that these may cascade to, cascade updates
exactly if they cascade inserts.
-/
def Registry.CascadesEvenlyFrom (registry : Registry) (model : Model) : Prop :=
  ∀ met, Relation.ReflTransGen (CascadesTo registry) model met → met.CascadesEvenly

/-- All relations that the model declares cascade everything or nothing. -/
def Model.CascadesFlatly (model : Model) : Prop :=
  ∀ name declared,
    (name, .relation declared) ∈ model.fields.entries
    → ∃ value, declared.cascade = .every value

section Cascading

variable {registry : Registry} {model target : Model} {definition : EntityDefinition}

/-- What cascades everything or nothing cascades inserts and updates alike. -/
theorem Model.CascadesFlatly.cascadesEvenly (h : model.CascadesFlatly)
    : model.CascadesEvenly := by
  intro definition name relation compiles member
  obtain ⟨declaration, declared, related⟩ := (mem_relations_iff compiles).mp member
  obtain ⟨written, declares, carried⟩ := Declaration.relation?_eq_some_iff.mp related
  obtain rfl : declaration = .relation written := by
    cases declaration <;> simp_all [Declaration.declaredRelation?]
  obtain ⟨value, flat⟩ := h name written declared
  rw [carried.cascade, flat]
  rfl

/-- Every model in reach is the first one or registered, so it is enough that these cascade
evenly.
-/
theorem Registry.cascadesEvenlyFrom_of_forall (first : model.CascadesEvenly)
    (each : ∀ registered ∈ registry.models, registered.CascadesEvenly)
    : registry.CascadesEvenlyFrom model := by
  intro met reached
  rcases reached.cases_tail with rfl | ⟨_, _, follows⟩
  · exact first
  · rcases follows with ⟨_, _, _, _, _, _, found⟩ | ⟨_, _, _, _, _, _, found⟩ <;>
      exact each met (Registry.get_eq_ok_iff.mp found).1

theorem Registry.CascadesEvenlyFrom.here (h : registry.CascadesEvenlyFrom model)
    : model.CascadesEvenly :=
  h model .refl

theorem Registry.CascadesEvenlyFrom.below (h : registry.CascadesEvenlyFrom model)
    (cascades : CascadesTo registry model target)
    : registry.CascadesEvenlyFrom target := fun met reached => h met (.head cascades reached)

/-- A view for updates follows the relations that a view for creation does. -/
theorem Model.CascadesEvenly.followed (h : model.CascadesEvenly)
    (compiles : model.definition = .ok definition)
    : definition.followed .update = definition.followed .create := by
  refine List.filter_congr fun entry member => Bool.eq_iff_iff.mpr ?_
  exact (h definition entry.1 entry.2 compiles member).symm

end Cascading

section Generated

variable {registry : Registry} {settings : ViewSettings} {model : Model}

/-- An unrolling for updates is the one for creation with nothing required, by induction on the
levels: both follow the same relations, to targets from which cascades are even again.
-/
theorem unroll_update (even : registry.CascadesEvenlyFrom model) (levels : Nat)
    : unroll registry .update levels model
      = ObjectOf.withoutRequired <$> unroll registry .create levels model := by
  induction levels generalizing model with
  | zero => rfl
  | succ levels ih =>
      cases compiles : model.definition with
      | error problem => simp [unroll_refused compiles]
      | ok definition =>
          have targets
              : ∀ entry ∈ definition.followed .create,
                  embedTarget registry (unroll registry .update levels) entry
                  = (fun property : String × Property =>
                      (property.1, property.2.withoutRequired))
                    <$> embedTarget registry (unroll registry .create levels) entry := by
            intro entry member
            unfold embedTarget
            cases found : registry.get entry.2.target with
            | error problem => rfl
            | ok target =>
                obtain ⟨declared, follows⟩ := List.mem_filter.mp member
                have cascades : CascadesTo registry model target :=
                  .inl ⟨definition, entry.1, entry.2, compiles, declared, follows, found⟩
                simp only [Except.mapError_ok, Except.ok_bind, ih (even.below cascades)]
                cases unroll registry .create levels target with
                | error stop => rfl
                | ok body =>
                    exact congrArg (fun property => Except.ok (entry.1, property))
                      (entry.2.withoutRequired_property body).symm
          rw [unroll_compiled compiles, unroll_compiled compiles, even.here.followed compiles,
            List.mapM_eq_map_mapM targets]
          cases (definition.followed .create).mapM
            (embedTarget registry (unroll registry .create levels)) with
          | error stop => rfl
          | ok embedded => exact congrArg Except.ok (definition.document_update embedded)

/-- Both outcomes are refusals for one reason, or both are documents. The second document is then
the first under another identifier and with nothing required at any level.
-/
inductive Restates (id other : String) : Except Halt Document → Except Halt Document → Prop
  | refused (problem : SchemaError)
    : Restates id other (.error (.refused problem)) (.error (.refused problem))
  | answered {document : Document} (identified : document.id? = some id)
    : Restates id other (.ok document) (.ok (document.withoutRequired.withId other))

/-- A view for updates restates the one for creation. -/
theorem generate_base_restates (even : registry.CascadesEvenlyFrom model)
    (limited : settings.maxDepth?.isSome) (qualifier : Option String)
    : Restates (schemaId model.name ViewKind.create.label qualifier)
        (schemaId model.name ViewKind.update.label qualifier)
        (View.generate registry settings (.base .create) model qualifier)
        (View.generate registry settings (.base .update) model qualifier) := by
  obtain ⟨limit, limits⟩ := Option.isSome_iff_exists.mp limited
  rw [generate_base, generate_base, unroll_update even, limits]
  cases unroll registry .create (levelsFor registry (some limit)) model with
  | error stop =>
      obtain ⟨problem, refused⟩ := stop.exists_toHalt_eq_refused limit []
      simp only [Except.mapError_error, Except.map_error, refused]
      exact .refused problem
  | ok body =>
      have answered
          : Restates (schemaId model.name ViewKind.create.label qualifier)
              (schemaId model.name ViewKind.update.label qualifier)
              (.ok (body.withId (schemaId model.name ViewKind.create.label qualifier))) _ :=
        .answered rfl
      rwa [ObjectOf.withoutRequired_withId] at answered

/-- A form for updates restates the one for creation, since both upload the same files. -/
theorem generate_form_restates (even : registry.CascadesEvenlyFrom model)
    (limited : settings.maxDepth?.isSome) (qualifier : Option String)
    : Restates (schemaId model.name FormKind.create.label qualifier)
        (schemaId model.name FormKind.update.label qualifier)
        (View.generate registry settings (.form .create) model qualifier)
        (View.generate registry settings (.form .update) model qualifier) := by
  have base := generate_base_restates even limited qualifier
  rw [generate_form, generate_form, FormKind.base, FormKind.base]
  generalize created : View.generate registry settings (.base .create) model qualifier = creation
    at base ⊢
  generalize View.generate registry settings (.base .update) model qualifier = update at base ⊢
  cases base with
  | refused problem => exact .refused problem
  | answered =>
      obtain ⟨definition, compiles⟩ := exists_definition_of_generate created
      simp only [compiles, Except.ok_bind, Except.mapError_ok, Except.pure_eq_ok,
        EntityDefinition.toForm_withoutRequired _ _ _ _]
      exact .answered rfl

/-- The view for updates restates the one for creation, each under its own identifier. -/
def RestatesCreation (registry : Registry) (settings : ViewSettings) (model : Model)
    (qualifier : Option String) (creating updating : View)
    : Prop :=
  Restates (schemaId model.name creating.label qualifier)
    (schemaId model.name updating.label qualifier)
    (View.generate registry settings creating model qualifier)
    (View.generate registry settings updating model qualifier)

/-- Where relations cascade inserts and updates alike from the model on, its limited view and form
for updates restate those for creation, refusals among them. Cascades of everything or nothing are
alike.
-/
theorem generate_update_restates_create (registry : Registry) (settings : ViewSettings)
    (limit : Nat) (model : Model) (qualifier : Option String)
    : (registry.CascadesEvenlyFrom model
        → RestatesCreation registry { settings with maxDepth? := some limit } model qualifier
            (.base .create) (.base .update)
          ∧ RestatesCreation registry { settings with maxDepth? := some limit } model qualifier
            (.form .create) (.form .update))
      ∧ ((∀ declaring ∈ model :: registry.models, declaring.CascadesFlatly)
        → registry.CascadesEvenlyFrom model) := by
  constructor
  · intro even
    exact ⟨generate_base_restates even rfl qualifier, generate_form_restates even rfl qualifier⟩
  · intro flat
    obtain ⟨first, each⟩ := List.forall_mem_cons.mp flat
    exact Registry.cascadesEvenlyFrom_of_forall first.cascadesEvenly
      fun registered member => (each registered member).cascadesEvenly

end Generated

/-- Books and their authors, without the libraries that are only created together with books. -/
def bookStall : Registry :=
  .ofModels [authorModel, bookModel] (by decide)

/-- Updating a book together with its author is shown as creating them, with nothing required. -/
theorem updateBook_restates_createBook
    : (∀ declaring ∈ bookModel :: bookStall.models, declaring.CascadesFlatly)
      ∧ ∃ created,
          View.generate bookStall { maxDepth? := some 1 } (.base .create) bookModel none
            = .ok created
          ∧ View.generate bookStall { maxDepth? := some 1 } (.base .update) bookModel none
            = .ok (created.withoutRequired.withId "Book_updateSchema") := by
  have author : authorModel.CascadesFlatly := by
    rintro name declared (_ | ⟨_, _ | ⟨_, ⟨⟩⟩⟩)
    exact ⟨false, rfl⟩
  have book : bookModel.CascadesFlatly := by
    rintro name declared (_ | ⟨_, _ | ⟨_, ⟨⟩⟩⟩)
    exact ⟨true, rfl⟩
  have flat : ∀ declaring ∈ bookModel :: bookStall.models, declaring.CascadesFlatly := by
    simp [bookStall, author, book]
  refine ⟨flat, ?_⟩
  have restates := generate_update_restates_create bookStall {} 1 bookModel none
  obtain ⟨created, answered⟩
      : ∃ created,
          View.generate bookStall { maxDepth? := some 1 } (.base .create) bookModel none
            = .ok created :=
    ⟨_, rfl⟩
  have base := (restates.1 (restates.2 flat)).1
  rw [RestatesCreation, answered] at base
  generalize View.generate bookStall { maxDepth? := some 1 } (.base .update) bookModel none
    = update at base ⊢
  cases base with
  | answered => exact ⟨created, answered, rfl⟩

end EntityViews
