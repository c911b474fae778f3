import EntityViews.Proofs.Journal.Definitions
import EntityViews.Proofs.View.DepthLimits
import EntityViews.Proofs.View.Fuel

/-! The warning about models that stand below themselves.
Without a limit an expansion that ends comes to no such model. One that does not end comes to one
before it is deeper than there are models, and the journal notes the first of them.
-/

namespace EntityViews

open Traced

variable {define : Model → Except SchemaError EntityDefinition} {registry : Registry}
  {kind : ViewKind} {fuel : Nat} {above : List String} {qualifier : Option String}
  {model : Model}

def Event.isReentry : Event → Bool
  | .reentered .. => true
  | _ => false

/-- The warnings that a journal holds, in order. -/
def Journal.reentries (journal : Journal) : List Event :=
  journal.events.filter Event.isReentry

/-- The warning that a step gives cause for. -/
def Step.reentry? : Step → Option Event
  | .reentered kind path model => some (.reentered kind path model)
  | .defined _ => none
  | .generated .. => none

theorem Journal.reentries_note (journal : Journal) (events : List Event)
    : (journal.note events).reentries = journal.reentries ++ events.filter Event.isReentry :=
  List.filter_append _ _

@[simp]
theorem Journal.reentries_afterDefining (journal : Journal) (model : Model)
    : (journal.afterDefining model).reentries = journal.reentries := by
  unfold afterDefining
  split
  · rfl
  · cases model.definition with
    | error problem => rfl
    | ok definition =>
        rw [reentries_note]
        exact List.append_nil _

/-- Of the steps of an expansion the journal notes the first that gives cause for a warning, and
none if one has been noted before.
-/
theorem Journal.reentries_afterSteps (journal : Journal) (reported : Bool) (steps : List Step)
    : (journal.afterSteps reported steps).reentries
      = journal.reentries
        ++ if reported then [] else (steps.filterMap Step.reentry?).take 1 := by
  induction steps generalizing journal reported with
  | nil => cases reported <;> simp [afterSteps]
  | cons step rest ih =>
      cases step with
      | defined model => simp [afterSteps, ih, List.filterMap_cons, Step.reentry?]
      | reentered kind path model =>
          cases reported <;>
            simp [afterSteps, ih, Step.reentry?, reentries_note, Event.isReentry]
      | generated kind model depth properties =>
          simp [afterSteps, ih, List.filterMap_cons, Step.reentry?, reentries_note,
            Event.isReentry]

/-- After the steps of a view any journal holds just these warnings more. -/
def NotesWarnings (steps : List Step) (warnings : List Event) : Prop :=
  ∀ journal : Journal,
    (journal.afterSteps false steps).reentries = journal.reentries ++ warnings

theorem notesWarnings_of_forall {steps : List Step} (h : ∀ step ∈ steps, step.reentry? = none)
    : NotesWarnings steps [] := by
  intro journal
  rw [Journal.reentries_afterSteps, List.filterMap_eq_nil_iff.mpr h]
  rfl

/-- Further steps add no warning to one that is noted. -/
theorem NotesWarnings.of_prefix {steps more : List Step} {warning : Event}
    (h : NotesWarnings steps [warning]) (longer : steps <+: more)
    : NotesWarnings more [warning] := by
  have first : (steps.filterMap Step.reentry?).take 1 = [warning] := by
    have noted := h {}
    rw [Journal.reentries_afterSteps] at noted
    exact List.append_cancel_left noted
  obtain ⟨rest, rfl⟩ := longer
  intro journal
  rw [Journal.reentries_afterSteps, List.filterMap_append]
  cases warnings : steps.filterMap Step.reentry? with
  | nil => simp [warnings] at first
  | cons other others =>
      rw [warnings] at first
      simpa using first

/-- Steps that give cause for a warning leave one. -/
theorem exists_notesWarnings {steps : List Step} {step : Step} (member : step ∈ steps)
    (h : step.reentry? ≠ none)
    : ∃ warning, NotesWarnings steps [warning] := by
  cases warnings : steps.filterMap Step.reentry? with
  | nil => exact absurd (List.filterMap_eq_nil_iff.mp warnings step member) h
  | cons warning others =>
      refine ⟨warning, fun journal => ?_⟩
      rw [Journal.reentries_afterSteps, warnings]
      rfl

/-- Without a limit an expansion does not end when its unrolling runs out of levels. -/
theorem expand_endless_iff
    : Endless (expand Model.definition registry none kind fuel above qualifier model)
      ↔ RunsOut (unroll registry kind fuel model) := by
  unfold Endless
  rw [expand_outcome registry kind (show Leaves above fuel fuel none from rfl),
    Except.map_eq_error_iff, Except.mapError_eq_error_iff]
  constructor
  · rintro ⟨stop, out, halt⟩
    cases stop with
    | refused problem => contradiction
    | tooDeep path => exact ⟨path, out⟩
  · rintro ⟨path, out⟩
    exact ⟨_, out, rfl⟩

/-- An expansion that ends comes to no model below itself, by induction on the fuel. With the
least fuel that its model needs, all models above need more, so it is none of them.
-/
theorem reentry?_eq_none_of_ends
    (ends
      : ¬ Endless (expand Model.definition registry none kind fuel above qualifier model))
    (registered : model ∈ registry.models)
    (upper
      : ∀ name ∈ above,
          ∃ other ∈ registry.models,
            other.name = name ∧ RunsOut (unroll registry kind fuel other))
    : ∀ step ∈ (expand Model.definition registry none kind fuel above qualifier model).steps,
        step.reentry? = none := by
  induction fuel generalizing above qualifier model with
  | zero => exact absurd rfl ends
  | succ fuel ih =>
      have higher
          : ∀ name ∈ above,
              ∃ other ∈ registry.models,
                other.name = name ∧ RunsOut (unroll registry kind fuel other) := by
        intro name member
        obtain ⟨other, known, named, out⟩ := upper name member
        exact ⟨other, known, named, runsOut_of_le (Nat.le_succ fuel) out⟩
      by_cases short
          : Endless (expand Model.definition registry none kind fuel above qualifier model)
      · intro step member
        rcases mem_steps_expand member with guarded | rfl | ⟨definition, compiles, below⟩ | done
        · have fresh : model.name ∉ above := by
            intro repeated
            obtain ⟨other, known, named, out⟩ := upper model.name repeated
            obtain rfl := List.inj_on_of_nodup_map registry.distinct known registered named
            exact ends (expand_endless_iff.mpr out)
          simp [guardDepth, fresh] at guarded
        · rfl
        · obtain ⟨target, known, member, endless⟩ := mem_steps_embedAll below
          refine ih ?ends known ?upper step member
          case ends =>
            intro out
            rw [expand_unlimited compiles] at ends
            exact ends (endless_bind_iff.mpr (Or.inl (endless out)))
          case upper =>
            intro name member
            rcases List.mem_append.mp member with old | new
            · exact higher name old
            · obtain rfl := List.mem_singleton.mp new
              exact ⟨model, registered, rfl, expand_endless_iff.mp short⟩
        · obtain ⟨_, rfl⟩ := done
          rfl
      · -- The model needs less fuel, and what it needs decides.
        rw [expand_settled short 1]
        exact ih short registered higher

/-- An unlimited expansion with fuel left begins by entering its model. -/
theorem entrySteps_prefix
    : entrySteps kind above model
      <+: (expand define registry none kind (fuel + 1) above qualifier model).steps := by
  cases compiles : define model with
  | error problem =>
      unfold expand
      rw [steps_bind_of_ok (guardDepth_outcome none kind above model.name)]
      exact (List.prefix_append_right_inj _).mpr
        (steps_prefix_bind (step (.defined model)) _)
  | ok definition =>
      rw [expand_unlimited compiles]
      exact List.prefix_append _ _

/-- An expansion that does not end has stopped short of a registered model, one that stands
below as many more as it had fuel. With more fuel it enters that model next. The models above
are all different unless one has been found below itself. This goes by induction on the fuel.
-/
theorem exists_entry_of_endless
    (h : Endless (expand define registry none kind fuel above qualifier model))
    (registered : model ∈ registry.models) (known : above ⊆ registry.names)
    : ∃ path,
        ∃ met ∈ registry.models,
          path.length = above.length + fuel
          ∧ path ⊆ registry.names
          ∧ (above.Nodup
            → (∀ step ∈ (expand define registry none kind fuel above qualifier model).steps,
              step.reentry? = none)
            → path.Nodup)
          ∧ ∀ more,
              (expand define registry none kind fuel above qualifier model).steps
                ++ entrySteps kind path met
              <+: (expand define registry none kind (fuel + more + 1) above qualifier
                model).steps := by
  induction fuel generalizing above qualifier model with
  | zero =>
      refine ⟨above, model, registered, rfl, known, fun distinct _ => distinct, ?_⟩
      intro more
      exact entrySteps_prefix
  | succ fuel ih =>
      obtain ⟨target, found, done, endless, steps, onward⟩ := expand_endless h
      have named : model.name ∈ registry.names := Registry.mem_names_of_mem registered
      have longer : above ++ [model.name] ⊆ registry.names :=
        List.append_subset.mpr ⟨known, by simpa using named⟩
      obtain ⟨path, met, member, length, within, distinct, enters⟩ := ih endless found longer
      refine ⟨path, met, member, ?length, within, ?distinct, ?enters⟩
      case length =>
        rw [length, List.length_append, List.length_singleton]
        omega
      case distinct =>
        intro unique silent
        rw [steps] at silent
        have fresh : model.name ∉ above := by
          intro repeated
          have warned := silent (.reentered kind above model.name)
            (by simp [entrySteps, guardDepth, repeated, step])
          contradiction
        refine distinct ?_ fun step below => silent step (List.mem_append_right _ below)
        exact List.nodup_append.mpr ⟨unique, by simp, by
          intro a old b new same
          obtain rfl := List.mem_singleton.mp new
          exact fresh (same ▸ old)⟩
      case enters =>
        intro more
        rw [steps, List.append_assoc]
        refine ((List.prefix_append_right_inj _).mpr (enters more)).trans ?_
        simpa [Nat.add_assoc, Nat.add_comm, Nat.add_left_comm] using onward (more + 1)

/-- Among as many different registered names as there are models is that of every model. -/
theorem Registry.mem_of_length {path : List String} (distinct : path.Nodup)
    (within : path ⊆ registry.names) (length : path.length = registry.size)
    (registered : model ∈ registry.models)
    : model.name ∈ path := by
  by_contra fresh
  have named : model.name ∈ registry.names := mem_names_of_mem registered
  have bound := (List.nodup_cons.mpr ⟨fresh, distinct⟩).length_le_of_subset
    (List.cons_subset.mpr ⟨named, within⟩)
  rw [List.length_cons, length, length_names] at bound
  exact Nat.not_succ_le_self _ bound

/-- The expansion of a base view without a limit, with fuel for so many models below each other.
-/
def unlimited (registry : Registry) (kind : ViewKind) (model : Model)
    (qualifier : Option String) (fuel : Nat)
    : Traced Document :=
  expand Model.definition registry none kind fuel [] qualifier model

/-- Without a limit the view of the model is warned of once if its expansion does not end,
whatever fuel it is given, and never if it ends with some fuel. With fuel for as many models as
are registered no model is entered below as many others; the next step enters the first that is,
and by then the warning has been noted.
-/
structure WarnsOfCycles (registry : Registry) (settings : ViewSettings) (kind : ViewKind)
    (model : Model) (qualifier : Option String)
    : Prop where
  ends_iff
    : (∃ fuel, ¬ Endless (unlimited registry kind model qualifier fuel))
      ↔ ¬ RefusedForDepth
        (View.generate registry { settings with maxDepth? := some (registry.size - 1) }
          (.base kind) model qualifier)
  outcome
    : ∀ fuel,
        ¬ Endless (unlimited registry kind model qualifier fuel)
        → (unlimited registry kind model qualifier fuel).outcome
          = View.generate registry { settings with maxDepth? := some (registry.size - 1) }
              (.base kind) model qualifier
  noted
    : ∀ journal,
        journal.Faithful registry
        → Work.view registry { settings with maxDepth? := none } (.base kind) model qualifier
            journal
          = ((unlimited registry kind model qualifier (registry.size + 2)).outcome,
              journal.afterSteps false
                (unlimited registry kind model qualifier (registry.size + 2)).steps)
  silent
    : ∀ fuel,
        ¬ Endless (unlimited registry kind model qualifier fuel)
        → NotesWarnings (unlimited registry kind model qualifier fuel).steps []
  once
    : (∀ fuel, Endless (unlimited registry kind model qualifier fuel))
      → ∃ path met warning,
          path.length = registry.size
          ∧ NotesWarnings
              ((unlimited registry kind model qualifier registry.size).steps
                ++ (guardDepth none kind path met.name).steps)
              [warning]
          ∧ ∀ fuel,
              registry.size < fuel
              → (unlimited registry kind model qualifier registry.size).steps
                    ++ (guardDepth none kind path met.name).steps ++ [.defined met]
                  <+: (unlimited registry kind model qualifier fuel).steps
                ∧ NotesWarnings (unlimited registry kind model qualifier fuel).steps [warning]

/-- The warning about a registered model is noted exactly when its expansion does not end, and
a limit of one below the number of models tells whether it does.
-/
theorem view_warnsOfCycles (settings : ViewSettings) (kind : ViewKind)
    (qualifier : Option String) (registered : model ∈ registry.models)
    : WarnsOfCycles registry settings kind model qualifier := by
  have levels : registry.size - 1 + 1 = registry.size :=
    Nat.succ_pred_eq_of_pos (registry.length_models ▸ List.length_pos_of_mem registered)
  have settled {fuel : Nat} (ends : ¬ Endless (unlimited registry kind model qualifier fuel))
      : ¬ RunsOut (unroll registry kind registry.size model) := fun out =>
    ends (expand_endless_iff.mpr (runsOut_forever_of_registered registered out fuel))
  refine ⟨?ends_iff, ?outcome, ?noted, ?silent, ?once⟩
  case ends_iff =>
    rw [refusedForDepth_iff, levels]
    constructor
    · rintro ⟨fuel, ends⟩
      exact settled ends
    · intro answered
      exact ⟨registry.size, mt expand_endless_iff.mp answered⟩
  case outcome =>
    intro fuel ends
    have enough := mt expand_endless_iff.mpr ends
    rw [unlimited, expand_outcome registry kind (show Leaves [] fuel fuel none from rfl),
      generate_base, levelsFor, levels, unroll_unique enough (settled ends),
      mapError_toHalt_of_settled (settled ends) none]
  case noted =>
    intro journal faithful
    exact Work.view_eq faithful registered
  case silent =>
    intro fuel ends
    exact notesWarnings_of_forall
      (reentry?_eq_none_of_ends ends registered (List.forall_mem_nil _))
  case once =>
    intro endless
    obtain ⟨path, met, member, length, within, distinct, enters⟩ :=
      exists_entry_of_endless (endless registry.size) registered (List.nil_subset _)
    rw [List.length_nil, Nat.zero_add] at length
    obtain ⟨warning, noted⟩
        : ∃ warning,
            NotesWarnings
              ((unlimited registry kind model qualifier registry.size).steps
                ++ (guardDepth none kind path met.name).steps)
              [warning] := by
      by_cases silent
          : ∀ step ∈ (unlimited registry kind model qualifier registry.size).steps,
              step.reentry? = none
      · have repeated : met.name ∈ path :=
          Registry.mem_of_length (distinct List.nodup_nil silent) within length member
        have again
            : .reentered kind path met.name
              ∈ (guardDepth none kind path met.name).steps := by
          simp [guardDepth, repeated, step]
        exact exists_notesWarnings (List.mem_append_right _ again) (by simp [Step.reentry?])
      · obtain ⟨step, before, warned⟩ := by simpa using silent
        exact exists_notesWarnings (List.mem_append_left _ before) (by simpa using warned)
    refine ⟨path, met, warning, length, noted, ?_⟩
    intro fuel deeper
    obtain ⟨more, rfl⟩ := Nat.exists_eq_add_of_lt deeper
    have entered := enters more
    rw [entrySteps, ← List.append_assoc] at entered
    exact ⟨entered, noted.of_prefix ((List.prefix_append _ _).trans entered)⟩

/-- Reading a book without a limit has no end, however much fuel it is given, and leaves one
warning: the book stands below itself and its author. Creating a library ends and leaves none.
-/
theorem readBook_warnsOfCycles
    : bookModel ∈ bookTrade.models
      ∧ libraryModel ∈ bookTrade.models
      ∧ (∀ fuel, Endless (unlimited bookTrade .full bookModel none fuel))
      ∧ (∀ fuel,
          bookTrade.size < fuel
          → NotesWarnings (unlimited bookTrade .full bookModel none fuel).steps
              [.reentered .full ["Book", "Author"] "Book"])
      ∧ ∃ fuel,
          ¬ Endless (unlimited bookTrade .create libraryModel none fuel)
          ∧ NotesWarnings (unlimited bookTrade .create libraryModel none fuel).steps [] := by
  have isBook : bookModel ∈ bookTrade.models := by simp [bookTrade]
  have isLibrary : libraryModel ∈ bookTrade.models := by simp [bookTrade]
  have read := view_warnsOfCycles {} .full none isBook
  have create := view_warnsOfCycles {} .create none isLibrary
  have refused
      : RefusedForDepth
          (View.generate bookTrade { maxDepth? := some 2 } (.base .full) bookModel none) :=
    ⟨2, ["Book", "Author", "Book", "Author"], rfl⟩
  have endless (fuel : Nat) : Endless (unlimited bookTrade .full bookModel none fuel) := by
    by_contra ends
    exact read.ends_iff.mp ⟨fuel, ends⟩ refused
  obtain ⟨path, met, warning, -, -, noted⟩ := read.once endless
  have named : warning = .reentered .full ["Book", "Author"] "Book" := by
    -- Fuel for one more than the models is enough to meet the book again.
    have again := (noted 4 (by decide)).2 {}
    exact (List.cons.inj again).1.symm
  have answered
      : ¬ RefusedForDepth
          (View.generate bookTrade { maxDepth? := some 2 } (.base .create) libraryModel
            none) := by
    intro refused
    obtain ⟨limit, path, same⟩ := refused
    contradiction
  obtain ⟨fuel, ends⟩ := create.ends_iff.mpr answered
  exact ⟨isBook, isLibrary, endless, fun fuel deeper => named ▸ (noted fuel deeper).2,
    fuel, ends, create.silent fuel ends⟩

end EntityViews
