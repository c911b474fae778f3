import EntityViews.Journal
import EntityViews.Proofs.View.Traces

/-! Definitions kept in a journal.
A journal keeps the definition that a model compiles to, so work that takes definitions from it
comes to what it would come to if every model were compiled afresh.
-/

namespace EntityViews

/-- Leaving out the entries of one key leaves those of the others. -/
theorem lookup_filter_ne {α : Type} {key other : Nat} (h : key ≠ other)
    (entries : List (Nat × α))
    : (entries.filter fun entry => entry.1 != other).lookup key = entries.lookup key := by
  induction entries with
  | nil => rfl
  | cons entry rest ih =>
      obtain ⟨first, value⟩ := entry
      by_cases left : first = other
      · subst left
        have differs : (key == first) = false := by simpa using h
        simpa [List.lookup_cons, differs] using ih
      · have kept : (first != other) = true := by simpa using left
        simp only [List.filter_cons, kept, if_true, List.lookup_cons, ih]

namespace Journal

variable {journal : Journal} {registry : Registry} {model : Model}

@[simp]
theorem stateOf_note (events : List Event)
    : (journal.note events).stateOf model = journal.stateOf model :=
  rfl

/-- A state that is set is that of the models with its serial number, and of no others. -/
theorem stateOf_setState (journal : Journal) (model other : Model) (state : ModelState)
    : (journal.setState model state).stateOf other
      = if other.serial = model.serial then state else journal.stateOf other := by
  unfold stateOf setState
  split
  · rename_i same
    simp [same]
  · rename_i differs
    have unequal : (other.serial == model.serial) = false := by simpa using differs
    rw [List.lookup_cons, unequal, lookup_filter_ne differs]

/-- The journal supplies the definitions that the models compile to. -/
def FaithfulTo (journal : Journal) (models : List Model) : Prop :=
  ∀ model ∈ models, journal.define model = model.definition

/-- The journal supplies the definitions that the registered models compile to. -/
def Faithful (journal : Journal) (registry : Registry) : Prop :=
  ∀ model ∈ registry.models, journal.define model = model.definition

/-- A journal without states supplies nothing but what models compile to. -/
theorem faithfulTo_of_states_nil (h : journal.states = []) (models : List Model)
    : journal.FaithfulTo models := by
  intro model _
  simp [define, stateOf, h]

variable {models : List Model}

/-- Events have no part in definitions. -/
theorem FaithfulTo.note (h : journal.FaithfulTo models) (events : List Event)
    : (journal.note events).FaithfulTo models :=
  h

/-- A journal that is as it has to be for some models is so for any of them. -/
theorem FaithfulTo.of_subset {fewer : List Model} (h : journal.FaithfulTo models)
    (within : fewer ⊆ models)
    : journal.FaithfulTo fewer := fun model member =>
  h model (within member)

/-- A definition that is kept is what the model compiles to. -/
theorem FaithfulTo.definition_of_kept (h : journal.FaithfulTo models) (known : model ∈ models)
    {definition : EntityDefinition}
    (kept : (journal.stateOf model).definition? = some definition)
    : model.definition = .ok definition := by
  rw [← h model known, define, kept]

/-- A state may be set that keeps no definition but what the model compiles to, under a serial
number that no other of the models has.
-/
theorem FaithfulTo.setState (h : journal.FaithfulTo models)
    (serials : (models.map Model.serial).Nodup) (known : model ∈ models) {state : ModelState}
    (compiles
      : ∀ definition, state.definition? = some definition → model.definition = .ok definition)
    : (journal.setState model state).FaithfulTo models := by
  intro other member
  rw [define, stateOf_setState]
  by_cases same : other.serial = model.serial
  · obtain rfl := List.inj_on_of_nodup_map serials member known same
    rw [if_pos rfl]
    split
    · rename_i definition kept
      exact (compiles definition kept).symm
    · rfl
  · rw [if_neg same]
    exact h other member

/-- Asking for the definition of a model keeps only what it compiles to. -/
theorem FaithfulTo.afterDefining (h : journal.FaithfulTo models)
    (serials : (models.map Model.serial).Nodup) (known : model ∈ models)
    : (journal.afterDefining model).FaithfulTo models := by
  unfold Journal.afterDefining
  split
  · exact h
  · cases compiles : model.definition with
    | error problem => exact h
    | ok definition =>
        refine (h.setState serials known ?_).note _
        intro kept same
        exact compiles.trans (congrArg Except.ok (Option.some.inj same))

/-- What holds of a journal still holds after notes and after the definitions of some models have
been asked for.
-/
structure Stable (holds : Journal → Prop) (models : List Model) : Prop where
  note : ∀ {journal}, holds journal → ∀ events, holds (journal.note events)
  afterDefining
    : ∀ {journal model}, holds journal → model ∈ models → holds (journal.afterDefining model)

theorem stable_faithfulTo (serials : (models.map Model.serial).Nodup)
    : Stable (fun journal => journal.FaithfulTo models) models where
  note := FaithfulTo.note
  afterDefining faithful known := faithful.afterDefining serials known

/-- The steps of an expansion only note and ask for definitions, by induction over the steps. -/
theorem Stable.afterSteps {holds : Journal → Prop} (stable : Stable holds models)
    (h : holds journal) {steps : List Step}
    (asked : ∀ model, .defined model ∈ steps → model ∈ models) (reported : Bool)
    : holds (journal.afterSteps reported steps) := by
  induction steps generalizing journal reported with
  | nil => exact h
  | cons step rest ih =>
      have later := fun model member => asked model (List.mem_cons_of_mem _ member)
      cases step with
      | defined model =>
          exact ih (stable.afterDefining h (asked model List.mem_cons_self)) later reported
      | reentered kind path model =>
          cases reported with
          | true => exact ih h later true
          | false => exact ih (stable.note h _) later true
      | generated kind model depth properties => exact ih (stable.note h _) later reported

end Journal

variable {define : Model → Except SchemaError EntityDefinition} {registry : Registry}
  {settings : ViewSettings} {view : View} {model : Model} {qualifier : Option String}

/-- A view only asks for definitions of its model and of registered models. -/
theorem eq_or_mem_of_generateWith_defined {asked : Model}
    (h : .defined asked ∈ (view.generateWith define registry settings model qualifier).steps)
    : asked = model ∨ asked ∈ registry.models := by
  cases view with
  | base kind => exact eq_or_mem_of_defined h
  | form kind =>
      simp only [View.generateWith, formViewWith, Traced.mem_steps_bind, Traced.steps_step,
        List.mem_singleton, Step.defined.injEq, Traced.steps_ofExcept, List.not_mem_nil,
        Traced.steps_pure, and_false, exists_false, or_false] at h
      rcases h with below | ⟨_, _, same⟩
      · exact eq_or_mem_of_defined below
      · exact Or.inl same

theorem mem_of_generateWith_defined {models : List Model} (within : registry.models ⊆ models)
    (known : model ∈ models) {asked : Model}
    (h : .defined asked ∈ (view.generateWith define registry settings model qualifier).steps)
    : asked ∈ models := by
  rcases eq_or_mem_of_generateWith_defined h with rfl | registered
  · exact known
  · exact within registered

/-- Definitions that agree on a model and on the registered ones give one view of the model. -/
theorem generateWith_congr {other : Model → Except SchemaError EntityDefinition}
    (same : ∀ model ∈ registry.models, define model = other model)
    (viewed : define model = other model)
    : view.generateWith define registry settings model qualifier
      = view.generateWith other registry settings model qualifier := by
  have base (kind : ViewKind)
      : viewWith define registry settings.maxDepth? kind model qualifier
        = viewWith other registry settings.maxDepth? kind model qualifier :=
    expand_congr same viewed
  cases view with
  | base kind => exact base kind
  | form kind => simp only [View.generateWith, formViewWith, base, viewed]

/-- Under a journal that is as it has to be, a view is what it is without one, and the journal
notes the steps of its expansion.
-/
theorem Work.view_eq_generate {journal : Journal} {models : List Model}
    (h : journal.FaithfulTo models) (within : registry.models ⊆ models)
    (known : model ∈ models)
    : Work.view registry settings view model qualifier journal
      = (View.generate registry settings view model qualifier,
          journal.afterSteps false
            (view.generateWith Model.definition registry settings model qualifier).steps) := by
  simp only [Work.view, generateWith_congr (h.of_subset within) (h model known)]
  rfl

/-- Under a journal that is as it has to be, a view of a registered model is what it is without
one, and the journal notes the steps of its expansion.
-/
theorem Work.view_eq {journal : Journal} (h : journal.Faithful registry)
    (registered : model ∈ registry.models)
    : Work.view registry settings view model qualifier journal
      = (View.generate registry settings view model qualifier,
          journal.afterSteps false
            (view.generateWith Model.definition registry settings model qualifier).steps) :=
  view_eq_generate h (List.Subset.refl _) registered

end EntityViews
