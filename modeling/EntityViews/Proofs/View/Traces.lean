import EntityViews.Proofs.Registry.Lookup
import EntityViews.Proofs.View.Unrolling

/-! The steps of expansions.
A traced computation does the steps of its first part and then, if that gives a value, those of
the second. So an expansion asks only for definitions of its model and of registered ones.
-/

namespace EntityViews

variable {define : Model → Except SchemaError EntityDefinition} {registry : Registry}
  {limit : Option Nat} {kind : ViewKind}

namespace Traced

variable {α β : Type}

@[simp]
theorem steps_pure (value : α) : (pure value : Traced α).steps = [] := rfl

@[simp]
theorem steps_step (done : Step) : (Traced.step done).steps = [done] := rfl

@[simp]
theorem steps_halt (reason : Halt) : (Traced.halt reason : Traced α).steps = [] := rfl

@[simp]
theorem steps_ofExcept (result : Except SchemaError α)
    : (Traced.ofExcept result).steps = [] := by
  cases result <;> rfl

theorem steps_bind (first : Traced α) (next : α → Traced β)
    : (first >>= next).steps
      = match first.outcome with
        | .ok value => first.steps ++ (next value).steps
        | .error _ => first.steps := by
  change (first.andThen next).steps = _
  unfold andThen
  split <;> simp_all

theorem steps_bind_of_ok {first : Traced α} {next : α → Traced β} {value : α}
    (h : first.outcome = .ok value)
    : (first >>= next).steps = first.steps ++ (next value).steps := by
  rw [steps_bind, h]

theorem steps_bind_of_error {first : Traced α} {next : α → Traced β} {halt : Halt}
    (h : first.outcome = .error halt)
    : (first >>= next).steps = first.steps := by
  rw [steps_bind, h]

/-- The steps of the first part come first. -/
theorem steps_prefix_bind (first : Traced α) (next : α → Traced β)
    : first.steps <+: (first >>= next).steps := by
  rw [steps_bind]
  split
  · exact List.prefix_append _ _
  · exact List.prefix_refl _

/-- What comes second matters only for values that the first part gives. -/
theorem bind_congr {first : Traced α} {next other : α → Traced β}
    (h : ∀ value, first.outcome = .ok value → next value = other value)
    : (first >>= next) = (first >>= other) := by
  change first.andThen next = first.andThen other
  unfold andThen
  split
  · rename_i value given
    rw [h value given]
  · rfl

/-- A step is one of the first part, or one of the second for the value of the first. -/
theorem mem_steps_bind {first : Traced α} {next : α → Traced β} {step : Step}
    : step ∈ (first >>= next).steps
      ↔ step ∈ first.steps
        ∨ ∃ value, first.outcome = .ok value ∧ step ∈ (next value).steps := by
  rw [steps_bind]
  cases first.outcome <;> simp

/-- The computation has not ended within its fuel. -/
def Endless (traced : Traced α) : Prop :=
  traced.outcome = .error .endless

/-- A computation does not end in its first part or in its second. -/
theorem endless_bind_iff {first : Traced α} {next : α → Traced β}
    : Endless (first >>= next)
      ↔ Endless first ∨ ∃ value, first.outcome = .ok value ∧ Endless (next value) := by
  unfold Endless
  rw [outcome_bind, Except.bind_eq_error_iff]

@[simp]
theorem not_endless_pure {value : α} : ¬ Endless (pure value : Traced α) := by
  simp [Endless]

@[simp]
theorem not_endless_ofExcept {result : Except SchemaError α}
    : ¬ Endless (Traced.ofExcept result) := by
  cases result <;> simp [Endless]

/-- A computation that ends is the same with parts that are the same wherever those end. -/
theorem bind_settled {first more : Traced α} {next other : α → Traced β}
    (hf : ¬ Endless first → more = first)
    (hn : ∀ value, first.outcome = .ok value → ¬ Endless (next value) → other value = next value)
    (h : ¬ Endless (first >>= next))
    : (more >>= other) = (first >>= next) := by
  rw [endless_bind_iff, not_or] at h
  obtain ⟨ends, onward⟩ := h
  rw [hf ends]
  exact bind_congr fun value given => hn value given fun out => onward ⟨value, given, out⟩

end Traced

/-- The steps of embedded relations are those of targets; one that has no end leaves the
embedding without one.
-/
theorem mem_steps_embedAll {expandTarget : Model → Traced Document}
    {relations : List (String × RelationDescriptor)} {step : Step}
    (h : step ∈ (embedAll registry expandTarget relations).steps)
    : ∃ target ∈ registry.models,
        step ∈ (expandTarget target).steps
        ∧ ((expandTarget target).Endless
          → (embedAll registry expandTarget relations).Endless) := by
  induction relations with
  | nil => simp [embedAll] at h
  | cons entry rest ih =>
      simp only [embedAll, Traced.mem_steps_bind, Traced.steps_ofExcept, List.not_mem_nil,
        false_or, Traced.outcome_ofExcept, Except.mapError_eq_ok_iff, Traced.steps_pure,
        and_false, exists_false, or_false] at h
      obtain ⟨target, found, here | ⟨nested, expanded, later⟩⟩ := h
      · refine ⟨target, (Registry.get_eq_ok_iff.mp found).1, here, ?_⟩
        intro endless
        exact Traced.endless_bind_iff.mpr (Or.inr ⟨target, by simp [found],
          Traced.endless_bind_iff.mpr (Or.inl endless)⟩)
      · obtain ⟨other, registered, member, endless⟩ := ih later
        refine ⟨other, registered, member, ?_⟩
        intro out
        refine Traced.endless_bind_iff.mpr (Or.inr ⟨target, by simp [found], ?_⟩)
        refine Traced.endless_bind_iff.mpr (Or.inr ⟨nested, expanded, ?_⟩)
        exact Traced.endless_bind_iff.mpr (Or.inl (endless out))

/-- The steps of an expansion: the guard, the definition of the model, and those of the embedded
relations before the document is done.
-/
theorem mem_steps_expand {fuel : Nat} {above : List String} {qualifier : Option String}
    {model : Model} {step : Step}
    (h : step ∈ (expand define registry limit kind (fuel + 1) above qualifier model).steps)
    : step ∈ (guardDepth limit kind above model.name).steps
      ∨ step = .defined model
      ∨ (∃ definition,
          define model = .ok definition
          ∧ step
            ∈ (embedAll registry
                (expand define registry limit kind fuel (above ++ [model.name]) none)
                (definition.followed kind)).steps)
      ∨ ∃ properties, step = .generated kind model.name above.length properties := by
  simp only [expand, Traced.mem_steps_bind, Traced.steps_step, List.mem_singleton,
    Traced.steps_ofExcept, List.not_mem_nil, false_or, Traced.outcome_ofExcept,
    Except.mapError_eq_ok_iff, Traced.steps_pure, and_false, exists_false, or_false] at h
  rcases h with guarded | ⟨_, _, asked | ⟨_, _, definition, compiles, below | done⟩⟩
  · exact Or.inl guarded
  · exact Or.inr (Or.inl asked)
  · exact Or.inr (Or.inr (Or.inl ⟨definition, compiles, below⟩))
  · obtain ⟨_, _, rfl⟩ := done
    exact Or.inr (Or.inr (Or.inr ⟨_, rfl⟩))

/-- The guard asks for no definition. -/
theorem defined_not_mem_guardDepth {path : List String} {name : String} {model : Model}
    : .defined model ∉ (guardDepth limit kind path name).steps := by
  cases limit <;> simp only [guardDepth] <;> split <;> simp

/-- Only definitions of the model and of registered ones are asked for, by induction on the
fuel.
-/
theorem eq_or_mem_of_defined {fuel : Nat} {above : List String} {qualifier : Option String}
    {model asked : Model}
    (h : .defined asked ∈ (expand define registry limit kind fuel above qualifier model).steps)
    : asked = model ∨ asked ∈ registry.models := by
  induction fuel generalizing above qualifier model with
  | zero => simp [expand] at h
  | succ fuel ih =>
      rcases mem_steps_expand h with guarded | same | ⟨_, _, below⟩ | ⟨_, done⟩
      · exact absurd guarded defined_not_mem_guardDepth
      · exact Or.inl (Step.defined.inj same)
      · obtain ⟨target, registered, member, _⟩ := mem_steps_embedAll below
        rcases ih member with rfl | other
        · exact Or.inr registered
        · exact Or.inr other
      · contradiction

/-- Targets are registered, so only expansions of registered models matter. -/
theorem embedAll_congr {expandTarget other : Model → Traced Document}
    (same : ∀ target ∈ registry.models, expandTarget target = other target)
    (relations : List (String × RelationDescriptor))
    : embedAll registry expandTarget relations = embedAll registry other relations := by
  induction relations with
  | nil => rfl
  | cons entry rest ih =>
      refine Traced.bind_congr ?_
      intro target given
      rw [Traced.outcome_ofExcept, Except.mapError_eq_ok_iff] at given
      rw [same target (Registry.get_eq_ok_iff.mp given).1, ih]

/-- Definitions that agree on the model and on the registered ones give one expansion, by
induction on the fuel.
-/
theorem expand_congr {other : Model → Except SchemaError EntityDefinition}
    (same : ∀ model ∈ registry.models, define model = other model) {fuel : Nat}
    {above : List String} {qualifier : Option String} {model : Model}
    (here : define model = other model)
    : expand define registry limit kind fuel above qualifier model
      = expand other registry limit kind fuel above qualifier model := by
  induction fuel generalizing above qualifier model with
  | zero => rfl
  | succ fuel ih =>
      have targets (target : Model) (registered : target ∈ registry.models)
          : expand define registry limit kind fuel (above ++ [model.name]) none target
            = expand other registry limit kind fuel (above ++ [model.name]) none target :=
        ih (same target registered)
      simp only [expand, here, embedAll_congr targets]

end EntityViews
