import EntityViews.Proofs.Entity.Compilation
import EntityViews.Proofs.Journal.Repositories
import EntityViews.Proofs.Manifest.Registering
import EntityViews.Proofs.Registry.Integrity
import EntityViews.Proofs.View.Dependence

/-! What the queries of a whole registry answer.
Entities and dependencies are told model by model and fail with the first model that does not
compile; the integrity check may meet a relation to an unregistered model before that. No query
changes what is answered after it.
-/

namespace EntityViews

-----------------------------------------------------------------------------------------
-- What each model contributes
-----------------------------------------------------------------------------------------

/-- The name that a field relates its model to. -/
def Declaration.target? : Declaration → Option String
  | .relation declared =>
      match declared.target with
      | .name target => some target
      | .reference _ => none
  | .scalar _ => none
  | .column _ => none
  | .relationTag _ => none

/-- The names that the fields of a model relate it to, in order of declaration. -/
def Model.targets (model : Model) : List String :=
  model.fields.entries.filterMap fun field => field.2.target?

/-- The entity of a model. -/
structure Model.Makes (model : Model) (entity : Entity) : Prop where
  name : entity.name = model.name
  definition : model.definition = .ok entity.definition
  options : entity.options = model.options

/-- The dependencies of a model: its name with the targets of its relations, in the order in which
its fields declare them.
-/
structure Model.Lists (model : Model) (entry : String × List String) : Prop where
  name : entry.1 = model.name
  relations
    : ∃ definition,
        model.definition = .ok definition
        ∧ entry.2 = definition.relations.values.map RelationDescriptor.target
  declared : entry.2 = model.targets

namespace Registry

/-- Every model compiles. -/
def Compiles (registry : Registry) : Prop :=
  ∀ model ∈ registry.models, ∃ definition, model.definition = .ok definition

/-- The problem is that of the first model, in order of registration, that does not compile. -/
def FirstRefused (registry : Registry) (problem : SchemaError) : Prop :=
  ∃ before model after,
    registry.models = before ++ model :: after
    ∧ (∀ earlier ∈ before, ∃ definition, earlier.definition = .ok definition)
    ∧ model.definition = .error problem

/-- What is wrong with a model: it does not compile, or it does and this is the first of its
targets, in order of declaration, that is not registered.
-/
inductive Flaw (registry : Registry) (model : Model) : SchemaError → Prop where
  | refused {problem : SchemaError} (h : model.definition = .error problem)
    : Flaw registry model problem
  | dangling {definition : EntityDefinition} {before after : List String} {target : String}
    (compiles : model.definition = .ok definition)
    (split : model.targets = before ++ target :: after)
    (earlier : ∀ other ∈ before, other ∈ registry.names) (absent : target ∉ registry.names)
    : Flaw registry model (.unknownModel target)

/-- The problem is what is wrong with the first model, in order of registration, with which
something is wrong.
-/
def FirstFlaw (registry : Registry) (problem : SchemaError) : Prop :=
  ∃ before model after,
    registry.models = before ++ model :: after
    ∧ (∀ earlier ∈ before, ∀ other, ¬ registry.Flaw earlier other)
    ∧ registry.Flaw model problem

end Registry

-----------------------------------------------------------------------------------------
-- Answers of a registry
-----------------------------------------------------------------------------------------

/-- A relation is compiled to one with the target that is declared. -/
theorem Declaration.map_target_relation? (declaration : Declaration)
    : declaration.relation?.map RelationDescriptor.target = declaration.target? := by
  cases declaration with
  | relation declared => cases h : declared.target <;> simp [relation?, target?, h]
  | scalar | column | relationTag => rfl

/-- The compiled relations point where the fields do. -/
theorem Model.map_target_relations {model : Model} {definition : EntityDefinition}
    (compiles : model.definition = .ok definition)
    : definition.relations.values.map RelationDescriptor.target = model.targets := by
  rw [OrderedMap.values, (definition_entries compiles).2.2, Members.select, List.map_map,
    List.map_filterMap]
  refine List.filterMap_congr fun field _ => ?_
  rw [Option.map_map, ← field.2.map_target_relation?]
  rfl

namespace Registry

variable {registry : Registry} {model : Model} {problem : SchemaError}

/-- The entities are made one by one, in order of registration. -/
theorem entities_eq_ok_iff_makes {entities : List Entity}
    : registry.entities = .ok entities
      ↔ List.Forall₂ Model.Makes registry.models entities := by
  have makes (model : Model) (entity : Entity)
      : (entity.name = model.name
          ∧ model.definition = .ok entity.definition
          ∧ entity.options = model.options)
        ↔ model.Makes entity :=
    ⟨fun parts => ⟨parts.1, parts.2.1, parts.2.2⟩,
      fun made => ⟨made.name, made.definition, made.options⟩⟩
  simp only [entities_eq_ok_iff, makes]

/-- The dependencies are listed one by one, in order of registration. -/
theorem dependencies_eq_ok_iff {graph : List (String × List String)}
    : registry.dependencies = .ok graph
      ↔ List.Forall₂ Model.Lists registry.models graph := by
  have lists (model : Model) (entry : String × List String)
      : (do
            let definition ← model.definition
            return (model.name, definition.relations.values.map RelationDescriptor.target))
          = (.ok entry : Except SchemaError _)
        ↔ model.Lists entry := by
    rw [Except.bind_eq_ok_iff]
    constructor
    · intro listed
      obtain ⟨definition, compiles, same⟩ := listed
      obtain rfl := Except.ok.inj same
      exact ⟨rfl, ⟨definition, compiles, rfl⟩, Model.map_target_relations compiles⟩
    · intro listed
      obtain ⟨definition, compiles, same⟩ := listed.relations
      exact ⟨definition, compiles, congrArg Except.ok (Prod.ext listed.name.symm same.symm)⟩
  simp only [dependencies, dependenciesWith_eq, List.mapM_eq_ok_iff, lists]

/-- A query that makes something of the definition of each model, whatever it makes of it, fails
with the first model that does not compile.
-/
theorem mapM_definition_eq_error_iff {α : Type} {make : Model → EntityDefinition → α}
    : (registry.models.mapM fun model => do return make model (← model.definition))
          = Except.error problem
      ↔ registry.FirstRefused problem := by
  have succeeds (model : Model)
      : (∃ value, make model <$> model.definition = .ok value)
        ↔ ∃ definition, model.definition = .ok definition := by
    cases model.definition <;> simp
  simp only [List.mapM_eq_error_iff, ← map_eq_pure_bind, Except.map_eq_error_iff, succeeds,
    FirstRefused]

theorem entities_eq_error_iff
    : registry.entities = .error problem ↔ registry.FirstRefused problem :=
  mapM_definition_eq_error_iff

theorem dependencies_eq_error_iff
    : registry.dependencies = .error problem ↔ registry.FirstRefused problem := by
  rw [dependencies, dependenciesWith_eq]
  exact mapM_definition_eq_error_iff

/-- A query succeeds unless some model is the first that does not compile. -/
theorem exists_entities_iff
    : (∃ entities, registry.entities = .ok entities) ↔ registry.Compiles := by
  refine Iff.trans ?_ exists_dependencies_iff
  simp only [Except.exists_ok_iff, ne_eq, entities_eq_error_iff, dependencies_eq_error_iff]

-----------------------------------------------------------------------------------------
-- Flaws
-----------------------------------------------------------------------------------------

theorem checkTarget_eq_error_iff {target : String}
    : (registry.checkTarget target : Except SchemaError Unit) = .error problem
      ↔ target ∉ registry.names ∧ problem = .unknownModel target := by
  rw [← contains_iff, checkTarget]
  cases registry.contains target with
  | true => simp
  | false =>
      simp only [Bool.false_eq_true, if_false, not_false_eq_true, true_and]
      exact ⟨fun fails => (Except.error.inj fails).symm, fun same => congrArg _ same.symm⟩

/-- A model that compiles is checked target by target. -/
theorem checkModelWith_of_compiles {definition : EntityDefinition}
    (compiles : model.definition = .ok definition)
    : registry.checkModelWith Model.definition model
      = model.targets.forM registry.checkTarget := by
  rw [← Model.map_target_relations compiles, checkModelWith, compiles, Except.ok_bind]
  exact (List.forM_map ..).symm

/-- A check refuses a model for what is wrong with it. -/
theorem checkModelWith_eq_error_iff
    : registry.checkModelWith Model.definition model = .error problem
      ↔ registry.Flaw model problem := by
  cases compiles : model.definition with
  | error cause =>
      rw [checkModelWith, compiles, Except.error_bind, Except.error.injEq]
      constructor
      · intro same
        exact .refused (same ▸ compiles)
      · intro flaw
        cases flaw with
        | refused h => exact Except.error.inj (compiles.symm.trans h)
        | dangling h => simp [compiles] at h
  | ok definition =>
      rw [checkModelWith_of_compiles compiles, List.forM_eq_error_iff]
      simp only [checkTarget_eq_ok_iff, checkTarget_eq_error_iff]
      constructor
      · intro fails
        obtain ⟨before, target, after, split, earlier, absent, rfl⟩ := fails
        exact .dangling compiles split earlier absent
      · intro flaw
        cases flaw with
        | refused h => simp [compiles] at h
        | dangling _ split earlier absent => exact ⟨_, _, _, split, earlier, absent, rfl⟩

/-- A check passes a model with which nothing is wrong. -/
theorem checkModelWith_eq_ok_iff
    : registry.checkModelWith Model.definition model = .ok ()
      ↔ ∀ problem, ¬ registry.Flaw model problem := by
  simp only [← checkModelWith_eq_error_iff]
  cases registry.checkModelWith Model.definition model <;> simp

theorem checkIntegrity_eq_error_iff
    : registry.checkIntegrity = .error problem ↔ registry.FirstFlaw problem := by
  simp only [checkIntegrity, checkIntegrityWith, List.forM_eq_error_iff,
    checkModelWith_eq_ok_iff, checkModelWith_eq_error_iff, FirstFlaw]

/-- A registry is intact if its models compile and relate to registered ones. -/
theorem checkIntegrity_eq_ok_iff_targets
    : registry.checkIntegrity = .ok ()
      ↔ registry.Compiles
        ∧ ∀ model ∈ registry.models, ∀ target ∈ model.targets, target ∈ registry.names := by
  rw [Compiles, ← forall₂_and]
  unfold checkIntegrity checkIntegrityWith
  rw [List.forM_eq_ok_iff]
  refine forall₂_congr fun model _ => ?_
  cases compiles : model.definition with
  | error cause => simp [checkModelWith, compiles]
  | ok definition =>
      rw [checkModelWith_of_compiles compiles, List.forM_eq_ok_iff]
      simp [checkTarget_eq_ok_iff]

end Registry

-----------------------------------------------------------------------------------------
-- Answers under a journal
-----------------------------------------------------------------------------------------

/-- What an attempt answers under a journal. -/
def Attempt.answer {ε α : Type} (attempt : Attempt ε α) (journal : Journal) : Except ε α :=
  (attempt.run.run journal).1

/-- Whatever is asked of the models, and of registries of them, has equal answers under both
journals.
-/
structure Journal.AnswersAlike (journal : Journal) (models : List Model) (other : Journal)
    : Prop where
  definition
    : ∀ model ∈ models,
        (Work.definition model).answer journal = (Work.definition model).answer other
  entity
    : ∀ model ∈ models, (Work.entity model).answer journal = (Work.entity model).answer other
  view
    : ∀ (registry : Registry) (settings : ViewSettings) (view : View) (model : Model)
        (qualifier : Option String),
        registry.models ⊆ models
        → model ∈ models
        → (Work.view registry settings view model qualifier).answer journal
          = (Work.view registry settings view model qualifier).answer other
  entities
    : ∀ registry : Registry,
        registry.models ⊆ models
        → (Work.entities registry).answer journal = (Work.entities registry).answer other
  checkIntegrity
    : ∀ registry : Registry,
        registry.models ⊆ models
        → (Work.checkIntegrity registry).answer journal
          = (Work.checkIntegrity registry).answer other
  dependencies
    : ∀ registry : Registry,
        registry.models ⊆ models
        → (Work.dependencies registry).answer journal
          = (Work.dependencies registry).answer other
  repository
    : ∀ model ∈ models,
        (Work.repository model).answer journal = (Work.repository model).answer other
  attach
    : ∀ (layer : DatabaseLayer), ∀ model ∈ models,
        (Work.attach layer model).answer journal = (Work.attach layer model).answer other

section Answers

variable {models : List Model} {journal other : Journal} {ε α : Type}

theorem Work.Yields.answer {attempt : Attempt ε α} {outcome : Except ε α}
    (h : Yields models attempt.run outcome) (faithful : journal.FaithfulTo models)
    : attempt.answer journal = outcome := by
  obtain ⟨later, did, _⟩ := h journal faithful
  exact congrArg Prod.fst did

/-- What is kept of definitions is in no answer, so journals with the same repositories answer
alike.
-/
theorem Journal.FaithfulTo.answersAlike (serials : (models.map Model.serial).Nodup)
    (faithful : journal.FaithfulTo models) (likewise : other.FaithfulTo models)
    (handles : ∀ model ∈ models, journal.handle? model = other.handle? model)
    : journal.AnswersAlike models other := by
  have alike {ε α : Type} {attempt : Attempt ε α} {outcome : Except ε α}
      (yields : Work.Yields models attempt.run outcome)
      : attempt.answer journal = attempt.answer other :=
    (yields.answer faithful).trans (yields.answer likewise).symm
  exact {
    definition := fun model known => alike (.definition serials known),
    entity := fun model known => alike (.entity serials known),
    view := fun registry settings view model qualifier within known =>
      alike (.view serials within known settings view qualifier),
    entities := fun registry within => alike (.entities serials within),
    checkIntegrity := fun registry within => alike (.checkIntegrity serials within),
    dependencies := fun registry within => alike (.dependencies serials within),
    repository := fun model known => by
      simp only [Attempt.answer, Work.repository_eq, handles model known],
    attach := fun layer model known => by
      simp only [Attempt.answer, Work.attach_answer faithful known,
        Work.attach_answer likewise known, handles model known]
  }

end Answers

/-- A task that attaches no repository can be left out of a run. -/
theorem Journal.answersAlike_without {models : List Model}
    (serials : (models.map Model.serial).Nodup) {tasks later : List Task} {task : Task}
    (before : ∀ other ∈ tasks, other.models ⊆ models) (within : task.models ⊆ models)
    (further : ∀ other ∈ later, other.models ⊆ models)
    (attaches : ∀ layer model, task ≠ .attach layer model)
    : (Journal.after (tasks ++ task :: later)).AnswersAlike models (.after (tasks ++ later)) := by
  have all : ∀ other ∈ tasks ++ task :: later, other.models ⊆ models :=
    List.forall_mem_append.mpr ⟨before, List.forall_mem_cons.mpr ⟨within, further⟩⟩
  have others : ∀ other ∈ tasks ++ later, other.models ⊆ models :=
    List.forall_mem_append.mpr ⟨before, further⟩
  refine (faithfulTo_after serials _ all).answersAlike serials
    (faithfulTo_after serials _ others) fun model known => ?_
  have makes : task.makes? model = none := by
    cases task with
    | attach layer attached => exact absurd rfl (attaches layer attached)
    | _ => rfl
  rw [handle?_after serials all known, handle?_after serials others known,
    List.findSome?_append, List.findSome?_append, List.findSome?_cons, makes]

-----------------------------------------------------------------------------------------
-- Queries at a moment
-----------------------------------------------------------------------------------------

namespace Moment

variable (moment : Moment)

/-- What the entities of the registry come to at this moment. -/
def entities : Except SchemaError (List Entity) :=
  (Work.entities moment.registry).answer (.after moment.tasks)

/-- What the dependencies of the registry come to at this moment. -/
def dependencies : Except SchemaError (List (String × List String)) :=
  (Work.dependencies moment.registry).answer (.after moment.tasks)

/-- What the check of the registry comes to at this moment. -/
def checkIntegrity : Except SchemaError Unit :=
  (Work.checkIntegrity moment.registry).answer (.after moment.tasks)

/-- What has been asked of models before makes no difference to the queries. -/
theorem entities_eq : moment.entities = moment.registry.entities :=
  (Work.Yields.entities moment.serials moment.registered).answer
    (Journal.faithfulTo_after moment.serials moment.tasks moment.asked)

theorem dependencies_eq : moment.dependencies = moment.registry.dependencies :=
  (Work.Yields.dependencies moment.serials moment.registered).answer
    (Journal.faithfulTo_after moment.serials moment.tasks moment.asked)

theorem checkIntegrity_eq : moment.checkIntegrity = moment.registry.checkIntegrity :=
  (Work.Yields.checkIntegrity moment.serials moment.registered).answer
    (Journal.faithfulTo_after moment.serials moment.tasks moment.asked)

/-- How the queries of the registry go together at a moment. -/
structure QueriesAgree : Prop where
  /-- The entities are told exactly if every model compiles, and so are the dependencies. -/
  made : (∃ entities, moment.entities = .ok entities) ↔ moment.registry.Compiles
  listed : (∃ graph, moment.dependencies = .ok graph) ↔ moment.registry.Compiles
  /-- They are told model by model, in order of registration. -/
  entities
    : ∀ entities,
        moment.entities = .ok entities
        ↔ List.Forall₂ Model.Makes moment.registry.models entities
  dependencies
    : ∀ graph,
        moment.dependencies = .ok graph
        ↔ List.Forall₂ Model.Lists moment.registry.models graph
  /-- Otherwise both fail with the first model that does not compile. -/
  unmade
    : ∀ problem, moment.entities = .error problem ↔ moment.registry.FirstRefused problem
  unlisted
    : ∀ problem, moment.dependencies = .error problem ↔ moment.registry.FirstRefused problem
  /-- The registry is intact exactly if every model compiles and all targets are registered. -/
  intact
    : moment.checkIntegrity = .ok ()
      ↔ moment.registry.Compiles
        ∧ ∀ model ∈ moment.registry.models,
            ∀ target ∈ model.targets, target ∈ moment.registry.names
  flawed
    : ∀ problem, moment.checkIntegrity = .error problem ↔ moment.registry.FirstFlaw problem
  /-- Whatever comes after a query has the answers that it has without the query. -/
  traceless
    : ∀ query ∈ [
          Task.entities moment.registry,
          .checkIntegrity moment.registry,
          .dependencies moment.registry
        ],
        ∀ later : List Task,
          (∀ task ∈ later, task.models ⊆ moment.made)
          → (Journal.after (moment.tasks ++ query :: later)).AnswersAlike moment.made
              (.after (moment.tasks ++ later))

/-- The queries of a registry agree whatever has been asked before: entities and dependencies are
told together or fail with one error, and the check finds the first thing that is wrong.
-/
theorem queries_agree : moment.QueriesAgree where
  made := moment.entities_eq ▸ Registry.exists_entities_iff
  listed := moment.dependencies_eq ▸ Registry.exists_dependencies_iff
  entities _ := moment.entities_eq ▸ Registry.entities_eq_ok_iff_makes
  dependencies _ := moment.dependencies_eq ▸ Registry.dependencies_eq_ok_iff
  unmade _ := moment.entities_eq ▸ Registry.entities_eq_error_iff
  unlisted _ := moment.dependencies_eq ▸ Registry.dependencies_eq_error_iff
  intact := moment.checkIntegrity_eq ▸ Registry.checkIntegrity_eq_ok_iff_targets
  flawed _ := moment.checkIntegrity_eq ▸ Registry.checkIntegrity_eq_error_iff
  traceless := by
    intro query member later further
    have within : query.models ⊆ moment.made := by
      simp only [List.mem_cons, List.not_mem_nil, or_false] at member
      rcases member with rfl | rfl | rfl <;> exact moment.registered
    refine Journal.answersAlike_without moment.serials moment.asked within further ?_
    intro layer model attaches
    subst attaches
    simp at member

end Moment

-----------------------------------------------------------------------------------------
-- A library without books
-----------------------------------------------------------------------------------------

/-- A moment at which a library has been read whose books are not registered, with a draft that
does not compile registered after it.
-/
def bareLibrary : Moment :=
  {
    made := [libraryModel, draftModel],
    serials := by decide,
    registry := .ofModels [libraryModel, draftModel] (by decide),
    registered := List.Subset.refl _,
    tasks := [.definition libraryModel],
    asked := by simp [Task.models]
  }

/-- The draft is reported where the definitions matter alone, and the books of the library, which
come first, by the check.
-/
theorem bareLibrary_queries
    : bareLibrary.entities = .error (.multiplePrimaryKeys "Draft" "code")
      ∧ bareLibrary.dependencies = .error (.multiplePrimaryKeys "Draft" "code")
      ∧ bareLibrary.checkIntegrity = .error (.unknownModel "Book") := by
  have agree := bareLibrary.queries_agree
  obtain ⟨library, compiles⟩ : ∃ definition, libraryModel.definition = .ok definition := ⟨_, rfl⟩
  have refused : bareLibrary.registry.FirstRefused (.multiplePrimaryKeys "Draft" "code") :=
    ⟨[libraryModel], draftModel, [], rfl, by simp [compiles], rfl⟩
  refine ⟨(agree.unmade _).mpr refused, (agree.unlisted _).mpr refused, ?_⟩
  refine (agree.flawed _).mpr ⟨[], libraryModel, [draftModel], rfl, by simp, ?_⟩
  have targets : libraryModel.targets = [] ++ "Book" :: [] := rfl
  exact .dangling compiles targets (by simp) (by decide)

end EntityViews
