import EntityViews.Proofs.FirstRefusal
import EntityViews.Proofs.Journal.Definitions

/-! What work on models comes to.
Work that asks for definitions and views of some models gives the same value under every journal
that supplies their definitions, and leaves such a journal behind.
-/

namespace EntityViews

/-- An attempt goes on with the value of its first part, from the journal that part leaves. -/
theorem Attempt.run_bind_of_ok {ε α β : Type} {first : Attempt ε α} {next : α → Attempt ε β}
    {value : α} {journal between : Journal}
    (h : first.run.run journal = (.ok value, between))
    : (first >>= next).run.run journal = (next value).run.run between := by
  rw [ExceptT.run_bind, StateT.run_bind, h]
  rfl

/-- Work in an attempt does not fail. -/
theorem Attempt.run_lift {ε α : Type} {work : Work α} {value : α} {journal later : Journal}
    (h : work.run journal = (value, later))
    : (liftM work : Attempt ε α).run.run journal = (.ok value, later) := by
  change (Except.ok <$> work).run journal = _
  rw [StateT.run_map, h]
  rfl

/-- Under every journal faithful to the models the work gives the value, and the journal stays
faithful to them.
-/
def Work.Yields (models : List Model) {α : Type} (work : Work α) (value : α) : Prop :=
  ∀ journal,
    journal.FaithfulTo models
    → ∃ later, work.run journal = (value, later) ∧ later.FaithfulTo models

namespace Work.Yields

variable {models : List Model} {α β ε δ : Type}

theorem pure (value : α) : Yields models (pure value) value := fun journal faithful =>
  ⟨journal, rfl, faithful⟩

theorem note (events : List Event) : Yields models (Work.note events) () :=
  fun _ faithful => ⟨_, rfl, faithful.note events⟩

theorem bind {first : Work α} {next : α → Work β} {value : α} {result : β}
    (h : Yields models first value) (hn : Yields models (next value) result)
    : Yields models (first >>= next) result := by
  intro journal faithful
  obtain ⟨between, did, still⟩ := h journal faithful
  obtain ⟨later, does, kept⟩ := hn between still
  refine ⟨later, ?_, kept⟩
  rw [StateT.run_bind, did]
  exact does

/-- Work in an attempt succeeds. -/
theorem lift {work : Work α} {value : α} (h : Yields models work value)
    : Yields models (liftM work : Attempt ε α).run (.ok value) := by
  intro journal faithful
  obtain ⟨later, did, kept⟩ := h journal faithful
  exact ⟨later, Attempt.run_lift did, kept⟩

/-- Attempts join like their outcomes: the second matters only if the first succeeds. -/
theorem attempt_bind {first : Attempt ε α} {next : α → Attempt ε β} {outcome : Except ε α}
    {onward : α → Except ε β} (h : Yields models first.run outcome)
    (hn : ∀ value, outcome = .ok value → Yields models (next value).run (onward value))
    : Yields models (first >>= next).run (outcome >>= onward) := by
  rw [ExceptT.run_bind]
  refine h.bind ?_
  cases outcome with
  | ok value => exact hn value rfl
  | error problem => exact .pure _

/-- An attempt that succeeds comes to what follows it. -/
theorem attempt_then {first : Attempt ε α} {next : α → Attempt ε β} {value : α}
    {outcome : Except ε β} (h : Yields models first.run (.ok value))
    (hn : Yields models (next value).run outcome)
    : Yields models (first >>= next).run outcome := by
  rw [ExceptT.run_bind]
  exact h.bind hn

/-- What is made of the value of an attempt is made of that of its outcome. -/
theorem attempt_map {attempt : Attempt ε α} {outcome : Except ε α}
    (h : Yields models attempt.run outcome) (f : α → β)
    : Yields models (attempt >>= fun value => return f value).run (f <$> outcome) := by
  rw [map_eq_pure_bind]
  exact h.attempt_bind fun _ _ => .pure _

/-- Relabelling the error of an attempt relabels that of its outcome. -/
theorem adapt {attempt : Attempt ε α} {outcome : Except ε α}
    (h : Yields models attempt.run outcome) (f : ε → δ)
    : Yields models (attempt.adapt f).run (outcome.mapError f) := by
  intro journal faithful
  obtain ⟨later, did, kept⟩ := h journal faithful
  refine ⟨later, ?_, kept⟩
  change (Except.mapError f <$> attempt.run).run journal = _
  rw [StateT.run_map, did]
  rfl

/-- An attempt at every entry of a list comes to a traversal of the list, by induction. -/
theorem forM {attempt : α → Attempt ε Unit} {outcome : α → Except ε Unit} {entries : List α}
    (h : ∀ entry ∈ entries, Yields models (attempt entry).run (outcome entry))
    : Yields models (entries.forM attempt).run (entries.forM outcome) := by
  induction entries with
  | nil => exact .pure _
  | cons entry rest ih =>
      obtain ⟨first, others⟩ := List.forall_mem_cons.mp h
      exact attempt_bind first fun _ _ => ih others

/-- Attempts at the entries of a list come to the list of their values, by induction. -/
theorem mapM {attempt : α → Attempt ε β} {outcome : α → Except ε β} {entries : List α}
    (h : ∀ entry ∈ entries, Yields models (attempt entry).run (outcome entry))
    : Yields models (entries.mapM attempt).run (entries.mapM outcome) := by
  induction entries with
  | nil => exact .pure _
  | cons entry rest ih =>
      obtain ⟨first, others⟩ := List.forall_mem_cons.mp h
      rw [List.mapM_cons, List.mapM_cons]
      refine attempt_bind first fun _ _ => ?_
      exact attempt_bind (ih others) fun _ _ => .pure _

variable {model : Model}

/-- Definitions are what models compile to. -/
theorem definition (serials : (models.map Model.serial).Nodup) (known : model ∈ models)
    : Yields models (Work.definition model).run model.definition := by
  intro journal faithful
  refine ⟨_, ?_, faithful.afterDefining serials known⟩
  rw [← faithful model known]
  rfl

/-- Entities are made of what models compile to. -/
theorem entity (serials : (models.map Model.serial).Nodup) (known : model ∈ models)
    : Yields models (Work.entity model).run model.entity :=
  (definition serials known).attempt_map model.entityOf

/-- Views are what they are when every model is compiled afresh. -/
theorem view (serials : (models.map Model.serial).Nodup) {registry : Registry}
    (within : registry.models ⊆ models) (known : model ∈ models) (settings : ViewSettings)
    (view : View) (qualifier : Option String)
    : Yields models (Work.view registry settings view model qualifier).run
        (View.generate registry settings view model qualifier) := by
  intro journal faithful
  refine ⟨_, Work.view_eq_generate faithful within known, ?_⟩
  have stable := Journal.stable_faithfulTo serials
  exact stable.afterSteps faithful (fun _ => mem_of_generateWith_defined within known) false

section Queries

variable (serials : (models.map Model.serial).Nodup) {registry : Registry}
  (within : registry.models ⊆ models)

include serials within

/-- The entities of a registry are what they are when every model is compiled afresh. -/
theorem entities : Yields models (Work.entities registry).run registry.entities := by
  refine mapM fun model registered => ?_
  exact (definition serials (within registered)).attempt_bind fun _ _ => .pure _

/-- The dependencies of a registry are what they are when every model is compiled afresh. -/
theorem dependencies
    : Yields models (Work.dependencies registry).run registry.dependencies := by
  rw [Work.dependencies, Registry.dependencies, Registry.dependenciesWith_eq,
    Registry.dependenciesWith_eq]
  refine mapM fun model registered => ?_
  exact (definition serials (within registered)).attempt_bind fun _ _ => .pure _

/-- A registry is intact or not as it is when every model is compiled afresh. -/
theorem checkIntegrity
    : Yields models (Work.checkIntegrity registry).run registry.checkIntegrity := by
  refine forM fun model registered => ?_
  refine (definition serials (within registered)).attempt_bind fun definition _ => ?_
  refine forM fun relation _ => ?_
  unfold Registry.checkTarget
  split <;> exact .pure _

end Queries

end Work.Yields

end EntityViews
