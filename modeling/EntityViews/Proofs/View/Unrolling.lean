import EntityViews.Proofs.FirstRefusal
import EntityViews.View.Form

/-! Views as unrollings of the relations they follow.
An unrolling knows neither a path nor a limit, only how many levels of models it may go down.
What an expansion comes to is an unrolling, whatever the models it stands below.
-/

namespace EntityViews

/-- Why an unrolling gives no document. -/
inductive Stop where
  | refused (problem : SchemaError)
  /-- The models of the path stand below each other, the last one a level too deep. -/
  | tooDeep (path : List String)

namespace Stop

/-- The stop as seen from the model that embeds the stopped one. -/
def below (model : String) : Stop → Stop
  | .refused problem => .refused problem
  | .tooDeep path => .tooDeep (model :: path)

/-- What the stop means to an expansion that stands below the given models. -/
def toHalt : Option Nat → List String → Stop → Halt
  | _, _, .refused problem => .refused problem
  | some depth, above, .tooDeep path => .refused (.depthExceeded depth (above ++ path))
  | none, _, .tooDeep _ => .endless

@[simp]
theorem toHalt_refused (limit : Option Nat) (above : List String) (problem : SchemaError)
    : (Stop.refused problem).toHalt limit above = .refused problem := by
  cases limit <;> rfl

/-- A limit leaves no stop without a refusal. -/
theorem exists_toHalt_eq_refused (limit : Nat) (above : List String) (stop : Stop)
    : ∃ problem, stop.toHalt (some limit) above = .refused problem := by
  cases stop <;> exact ⟨_, rfl⟩

/-- A path grows by the embedding model at the front or by it at the end of what lies above. -/
theorem toHalt_below (limit : Option Nat) (above : List String) (model : String) (stop : Stop)
    : (stop.below model).toHalt limit above = stop.toHalt limit (above ++ [model]) := by
  cases stop with
  | refused problem => simp [below]
  | tooDeep path => cases limit <;> simp [below, toHalt]

end Stop

/-- The property of a followed relation, with its target unrolled as given. -/
def embedTarget (registry : Registry) (unrollTarget : Model → Except Stop Document)
    (entry : String × RelationDescriptor)
    : Except Stop (String × Property) := do
  let target ← (registry.get entry.2.target).mapError .refused
  let body ← unrollTarget target
  return (entry.1, entry.2.property body)

/-- The body of a view of a model, going down the given number of levels. The body is the
document less its identifier, the only part of it that a qualifier shows in.
-/
def unroll (registry : Registry) (kind : ViewKind) : Nat → Model → Except Stop Document
  | 0, model => .error (.tooDeep [model.name])
  | levels + 1, model => do
      let definition ← model.definition.mapError .refused
      let embedded ← Except.mapError (Stop.below model.name) <|
        (definition.followed kind).mapM (embedTarget registry (unroll registry kind levels))
      return definition.document kind none embedded

section Unrolled

variable {registry : Registry} {kind : ViewKind} {model : Model}
  {unrollTarget : Model → Except Stop Document} {entry : String × RelationDescriptor}

/-- A relation is embedded when its target is found and unrolled. -/
theorem embedTarget_eq_ok_iff {property : String × Property}
    : embedTarget registry unrollTarget entry = .ok property
      ↔ ∃ target body,
          registry.get entry.2.target = .ok target
          ∧ unrollTarget target = .ok body
          ∧ property = (entry.1, entry.2.property body) := by
  unfold embedTarget
  cases registry.get entry.2.target with
  | error problem => simp
  | ok target => cases body : unrollTarget target <;> simp [body, eq_comm]

/-- A relation is stopped at because its target is unknown, or else along with its target. -/
theorem embedTarget_eq_error_iff {stop : Stop}
    : embedTarget registry unrollTarget entry = .error stop
      ↔ (∃ problem, registry.get entry.2.target = .error problem ∧ stop = .refused problem)
        ∨ ∃ target,
            registry.get entry.2.target = .ok target ∧ unrollTarget target = .error stop := by
  unfold embedTarget
  cases registry.get entry.2.target with
  | error problem => simp [eq_comm]
  | ok target => cases body : unrollTarget target <;> simp [body]

/-- A refused model is refused at any level but the last. -/
theorem unroll_refused {problem : SchemaError} (h : model.definition = .error problem)
    (levels : Nat)
    : unroll registry kind (levels + 1) model = .error (.refused problem) := by
  simp [unroll, h]

/-- A compiled model comes to its document over the properties of its followed relations. -/
theorem unroll_compiled {definition : EntityDefinition}
    (h : model.definition = .ok definition) (levels : Nat)
    : unroll registry kind (levels + 1) model
      = definition.document kind none
          <$> ((definition.followed kind).mapM
            (embedTarget registry (unroll registry kind levels))).mapError
              (.below model.name) := by
  simp only [unroll, h, Except.mapError_ok, Except.ok_bind]
  rfl

/-- A view is refused for a model that does not compile or for a name that finds no model, by
induction on the levels.
-/
theorem unroll_refusal {levels : Nat} {problem : SchemaError}
    (h : unroll registry kind levels model = .error (.refused problem))
    : (∃ broken : Model, broken.definition = .error problem)
      ∨ ∃ name, registry.get name = .error problem := by
  induction levels generalizing model with
  | zero => simp [unroll] at h
  | succ levels ih =>
      cases compiles : model.definition with
      | error cause =>
          rw [unroll_refused compiles] at h
          obtain rfl := Stop.refused.inj (Except.error.inj h)
          exact Or.inl ⟨model, compiles⟩
      | ok definition =>
          rw [unroll_compiled compiles, Except.map_eq_error_iff,
            Except.mapError_eq_error_iff] at h
          obtain ⟨stop, out, below⟩ := h
          cases stop with
          | tooDeep path => contradiction
          | refused cause =>
              obtain rfl := Stop.refused.inj below
              obtain ⟨_, entry, _, _, _, failed⟩ := List.mapM_eq_error_iff.mp out
              rcases embedTarget_eq_error_iff.mp failed with
                ⟨problem, unknown, same⟩ | ⟨target, _, deeper⟩
              · obtain rfl := Stop.refused.inj same
                exact Or.inr ⟨entry.2.target, unknown⟩
              · exact ih deeper

end Unrolled

/-- The document with an identifier. -/
def ObjectOf.withId (document : Document) (id : String) : Document :=
  { document with id? := some id }

@[simp]
theorem property_withId (relation : RelationDescriptor) (document : Document) (id : String)
    : relation.property (document.withId id) = relation.property document := rfl

namespace Traced

variable {α β : Type}

@[simp]
theorem outcome_pure (value : α) : (pure value : Traced α).outcome = .ok value := rfl

@[simp]
theorem outcome_step (done : Step) : (Traced.step done).outcome = .ok () := rfl

@[simp]
theorem outcome_halt (reason : Halt) : (Traced.halt reason : Traced α).outcome = .error reason :=
  rfl

@[simp]
theorem outcome_bind (first : Traced α) (next : α → Traced β)
    : (first >>= next).outcome = (first.outcome >>= fun value => (next value).outcome) := by
  change (first.andThen next).outcome = _
  unfold andThen
  split <;> simp_all

@[simp]
theorem outcome_ofExcept (result : Except SchemaError α)
    : (Traced.ofExcept result).outcome = result.mapError .refused := by
  cases result <;> rfl

end Traced

/-- The outcome of the guard hangs on the number of models above, not on their names. -/
theorem guardDepth_outcome (limit : Option Nat) (kind : ViewKind) (above : List String)
    (model : String)
    : (guardDepth limit kind above model).outcome
      = match limit with
        | some depth =>
            if depth < above.length then
              .error (.refused (.depthExceeded depth (above ++ [model])))
            else .ok ()
        | none => .ok () := by
  cases limit <;> simp only [guardDepth] <;> split <;> rfl

/-- Followed relations are embedded in order, up to the first that cannot be. -/
theorem embedAll_outcome (registry : Registry) (expandTarget : Model → Traced Document)
    (relations : List (String × RelationDescriptor))
    : (embedAll registry expandTarget relations).outcome
      = relations.mapM fun entry => do
          let target ← (registry.get entry.2.target).mapError Halt.refused
          let nested ← (expandTarget target).outcome
          return (entry.1, entry.2.property nested) := by
  induction relations with
  | nil => rfl
  | cons entry rest ih => simp [embedAll, ih]

/-- The levels that an expansion below the given models may go down, and fuel for them: a
limit leaves the levels up to one beyond it, and without one fuel alone ends the expansion.
-/
def Leaves (above : List String) (levels fuel : Nat) : Option Nat → Prop
  | some depth => above.length + levels = depth + 1 ∧ levels < fuel
  | none => levels = fuel

/-- One model further down there is a level less, at one unit of fuel. -/
theorem Leaves.below {above : List String} {levels fuel : Nat} {limit : Option Nat}
    (h : Leaves above (levels + 1) (fuel + 1) limit) (model : String)
    : Leaves (above ++ [model]) levels fuel limit := by
  cases limit with
  | none => exact Nat.succ.inj h
  | some depth =>
      obtain ⟨total, enough⟩ := h
      refine ⟨?_, by omega⟩
      simp only [List.length_append, List.length_singleton]
      omega

/-- A model with levels left passes the guard. -/
theorem Leaves.admits {above : List String} {levels fuel : Nat} {limit : Option Nat}
    (h : Leaves above (levels + 1) fuel limit) (kind : ViewKind) (model : String)
    : (guardDepth limit kind above model).outcome = .ok () := by
  rw [guardDepth_outcome]
  cases limit with
  | none => rfl
  | some depth =>
      obtain ⟨total, _⟩ := h
      exact if_neg (by omega)

/-- A model without levels left stops the expansion, by the guard or for want of fuel. -/
theorem Leaves.stops {above : List String} {fuel : Nat} {limit : Option Nat}
    (h : Leaves above 0 fuel limit) (registry : Registry) (kind : ViewKind)
    (qualifier : Option String) (model : Model)
    : (expand Model.definition registry limit kind fuel above qualifier model).outcome
      = .error (Stop.toHalt limit above (.tooDeep [model.name])) := by
  cases limit with
  | none =>
      obtain rfl : 0 = fuel := h
      rfl
  | some depth =>
      obtain ⟨total, enough⟩ := h
      obtain ⟨spare, rfl⟩ := Nat.exists_eq_add_of_lt enough
      have beyond : depth < above.length := by omega
      simp [expand, guardDepth_outcome, beyond, Stop.toHalt]

/-- The outcome of an expansion is the unrolling over the levels left to it, under the
identifier of the view, by induction on the fuel.
-/
theorem expand_outcome (registry : Registry) (kind : ViewKind) {limit : Option Nat}
    {above : List String} {levels fuel : Nat} (h : Leaves above levels fuel limit)
    (qualifier : Option String) (model : Model)
    : (expand Model.definition registry limit kind fuel above qualifier model).outcome
      = (ObjectOf.withId · (schemaId model.name kind.label qualifier))
          <$> (unroll registry kind levels model).mapError (Stop.toHalt limit above) := by
  induction fuel generalizing above levels qualifier model with
  | zero =>
      obtain rfl : levels = 0 := by
        cases limit with
        | none => exact h
        | some depth => exact absurd h.2 (Nat.not_lt_zero _)
      exact h.stops registry kind qualifier model
  | succ fuel ih =>
      cases levels with
      | zero => exact h.stops registry kind qualifier model
      | succ levels =>
          -- Targets stand one model further down, where the induction hypothesis applies.
          have targets (entry : String × RelationDescriptor)
              : (do
                  let target ← (registry.get entry.2.target).mapError Halt.refused
                  let nested ←
                    (expand Model.definition registry limit kind fuel (above ++ [model.name])
                      none target).outcome
                  return (entry.1, entry.2.property nested))
                = ((embedTarget registry (unroll registry kind levels) entry).mapError
                    (Stop.below model.name)).mapError (Stop.toHalt limit above) := by
            simp only [ih (h.below model.name), embedTarget]
            cases registry.get entry.2.target with
            | error problem => simp [Stop.below]
            | ok target =>
                cases body : unroll registry kind levels target with
                | error stop => simp [body, Stop.toHalt_below]
                | ok document => simp [body]
          simp only [expand, unroll, Traced.outcome_bind, h.admits, Traced.outcome_step,
            Traced.outcome_ofExcept, Traced.outcome_pure, embedAll_outcome, targets,
            List.mapM_mapError, Except.ok_bind]
          cases model.definition with
          | error problem => simp
          | ok definition =>
              cases embedded : (definition.followed kind).mapM
                (embedTarget registry (unroll registry kind levels)) with
              | error stop => simp [embedded]
              | ok properties => simp [embedded, ObjectOf.withId, EntityDefinition.document]

/-- The levels of a view: those up to the limit, or else one for each registered model and
two more.
-/
def levelsFor (registry : Registry) : Option Nat → Nat
  | some depth => depth + 1
  | none => registry.size + 2

/-- A base view is the unrolling over its levels, under the identifier of the view. -/
theorem generate_base (registry : Registry) (settings : ViewSettings) (kind : ViewKind)
    (model : Model) (qualifier : Option String)
    : View.generate registry settings (.base kind) model qualifier
      = (ObjectOf.withId · (schemaId model.name kind.label qualifier))
          <$> (unroll registry kind (levelsFor registry settings.maxDepth?) model).mapError
            (Stop.toHalt settings.maxDepth? []) := by
  have leaves
      : Leaves [] (levelsFor registry settings.maxDepth?)
          (fuelFor registry settings.maxDepth?) settings.maxDepth? := by
    cases settings.maxDepth? <;> simp [Leaves, levelsFor, fuelFor]
  exact expand_outcome registry kind leaves qualifier model

/-- A base view has a document when its unrolling has a body: the body under the identifier. -/
theorem generate_eq_ok_iff {registry : Registry} {settings : ViewSettings} {kind : ViewKind}
    {model : Model} {qualifier : Option String} {document : Document}
    : View.generate registry settings (.base kind) model qualifier = .ok document
      ↔ ∃ body,
          unroll registry kind (levelsFor registry settings.maxDepth?) model = .ok body
          ∧ body.withId (schemaId model.name kind.label qualifier) = document := by
  rw [generate_base, Except.map_eq_ok_iff]
  simp only [Except.mapError_eq_ok_iff]

end EntityViews
