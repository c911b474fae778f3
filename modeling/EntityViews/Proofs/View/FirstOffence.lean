import EntityViews.Proofs.View.Walks
import Mathlib.Data.List.Chain

/-! The error of a limited view.
An expansion goes down along the followed relations, depth first and in order of declaration.
Of all that it could stumble on it reports what comes first in that order.
-/

namespace EntityViews

variable {registry : Registry} {kind : ViewKind} {limit : Nat} {above : List String}
  {model : Model} {point : List Nat} {problem : SchemaError}

-----------------------------------------------------------------------------------------
-- Offences and their places
-----------------------------------------------------------------------------------------

/-- A route down an expansion, by the number of the followed relation that it takes at each of
the models that it passes.
-/
inductive Route (registry : Registry) (kind : ViewKind)
    : Model → List Nat → List Model → Model → Prop
  | here (model : Model) : Route registry kind model [] [] model
  | turn {first second last : Model} {definition : EntityDefinition} {index : Nat}
    {entry : String × RelationDescriptor} {point : List Nat} {passed : List Model}
    (compiles : first.definition = .ok definition)
    (taken : (definition.followed kind)[index]? = some entry)
    (found : registry.get entry.2.target = .ok second)
    (rest : Route registry kind second point passed last)
    : Route registry kind first (index :: point) (first :: passed) last

/-- What the expansion of a model below others may stumble on, and at which point. Only within
the limit a model has to compile and to point to registered models; beyond it any model offends.
-/
inductive Offence (registry : Registry) (kind : ViewKind) (limit : Nat) (above : List String)
    (model : Model)
    : List Nat → SchemaError → Prop
  | broken {point : List Nat} {passed : List Model} {met : Model} {problem : SchemaError}
    (route : Route registry kind model point passed met)
    (within : above.length + passed.length ≤ limit)
    (refused : met.definition = .error problem)
    : Offence registry kind limit above model point problem
  | unknown {point : List Nat} {passed : List Model} {met : Model}
    {definition : EntityDefinition} {index : Nat} {entry : String × RelationDescriptor}
    (route : Route registry kind model point passed met)
    (within : above.length + passed.length ≤ limit)
    (compiles : met.definition = .ok definition)
    (taken : (definition.followed kind)[index]? = some entry)
    (absent : entry.2.target ∉ registry.names)
    : Offence registry kind limit above model (point ++ [index]) (.unknownModel entry.2.target)
  | tooDeep {point : List Nat} {passed : List Model} {met : Model}
    (route : Route registry kind model point passed met)
    (beyond : above.length + passed.length = limit + 1)
    : Offence registry kind limit above model point
        (.depthExceeded limit (above ++ passed.map Model.name ++ [met.name]))

/-- The offence that comes first, depth first and in order of declaration. Points are compared
from their first number on, so those below a relation come before those below a later one.
-/
structure FirstOffence (registry : Registry) (kind : ViewKind) (limit : Nat)
    (above : List String) (model : Model) (point : List Nat) (problem : SchemaError)
    : Prop where
  offends : Offence registry kind limit above model point problem
  first
    : ∀ {other another},
        Offence registry kind limit above model other another → ¬ other < point

/-- At the model itself an offence is that it does not compile or stands beyond the limit. -/
theorem offence_nil_iff
    : Offence registry kind limit above model [] problem
      ↔ (above.length ≤ limit ∧ model.definition = .error problem)
        ∨ (above.length = limit + 1
          ∧ problem = .depthExceeded limit (above ++ [model.name])) := by
  constructor
  · intro offence
    generalize place : ([] : List Nat) = point at offence
    cases offence with
    | broken route within refused =>
        subst place
        cases route
        exact Or.inl ⟨within, refused⟩
    | unknown => simp at place
    | tooDeep route beyond =>
        subst place
        cases route
        exact Or.inr ⟨beyond, by simp⟩
  · rintro (⟨within, refused⟩ | ⟨beyond, rfl⟩)
    · exact .broken (.here model) within refused
    · have place : Route registry kind model [] [] model := .here model
      simpa using Offence.tooDeep place beyond

/-- A passed model counts below the others or as one of those above. -/
theorem length_below (above : List String) (model : Model) (passed : List Model)
    : (above ++ [model.name]).length + passed.length
      = above.length + (model :: passed).length := by
  simp only [List.length_append, List.length_cons, List.length_nil]
  omega

/-- Behind a followed relation of a model an offence is that the target is unknown, or it is an
offence below the target, where one more model stands above.
-/
theorem offence_cons_iff {index : Nat} {rest : List Nat}
    : Offence registry kind limit above model (index :: rest) problem
      ↔ ∃ definition entry,
          model.definition = .ok definition
          ∧ (definition.followed kind)[index]? = some entry
          ∧ ((above.length ≤ limit
                ∧ rest = []
                ∧ entry.2.target ∉ registry.names
                ∧ problem = .unknownModel entry.2.target)
            ∨ ∃ target,
                registry.get entry.2.target = .ok target
                ∧ Offence registry kind limit (above ++ [model.name]) target rest problem) := by
  constructor
  · intro offence
    generalize place : index :: rest = point at offence
    cases offence with
    | broken route within refused =>
        subst place
        cases route with
        | turn compiles taken found route =>
            rw [← length_below] at within
            exact ⟨_, _, compiles, taken, Or.inr ⟨_, found, .broken route within refused⟩⟩
    | unknown route within compiles taken absent =>
        cases route with
        | here =>
            obtain ⟨rfl, rfl⟩ := List.cons.inj place
            refine ⟨_, _, compiles, taken, Or.inl ⟨?_, rfl, absent, rfl⟩⟩
            simpa using within
        | turn passes turns found route =>
            obtain ⟨rfl, rfl⟩ := List.cons.inj place
            rw [← length_below] at within
            exact ⟨_, _, passes, turns,
              Or.inr ⟨_, found, .unknown route within compiles taken absent⟩⟩
    | tooDeep route beyond =>
        subst place
        cases route with
        | turn compiles taken found route =>
            rw [← length_below] at beyond
            refine ⟨_, _, compiles, taken, Or.inr ⟨_, found, ?_⟩⟩
            simpa using Offence.tooDeep route beyond
  · rintro ⟨definition, entry, compiles, taken, here | ⟨target, found, deeper⟩⟩
    · obtain ⟨within, rfl, absent, rfl⟩ := here
      exact .unknown (.here model) (by simpa using within) compiles taken absent
    · cases deeper with
      | broken route within refused =>
          rw [length_below] at within
          exact .broken (.turn compiles taken found route) within refused
      | unknown route within passes turns absent =>
          rw [length_below] at within
          exact .unknown (.turn compiles taken found route) within passes turns absent
      | tooDeep route beyond =>
          rw [length_below] at beyond
          simpa using Offence.tooDeep (.turn compiles taken found route) beyond

section Behind

variable {definition : EntityDefinition} {index : Nat} {rest : List Nat}
  {entry : String × RelationDescriptor} {target : Model}

/-- A followed relation whose target is unknown offends. -/
theorem Offence.of_absent (within : above.length ≤ limit)
    (compiles : model.definition = .ok definition)
    (taken : (definition.followed kind)[index]? = some entry)
    (absent : entry.2.target ∉ registry.names)
    : Offence registry kind limit above model [index] (.unknownModel entry.2.target) :=
  offence_cons_iff.mpr
    ⟨definition, entry, compiles, taken, Or.inl ⟨within, rfl, absent, rfl⟩⟩

/-- An offence below the target of a followed relation is one behind the relation. -/
theorem Offence.behind (compiles : model.definition = .ok definition)
    (taken : (definition.followed kind)[index]? = some entry)
    (found : registry.get entry.2.target = .ok target)
    (deeper : Offence registry kind limit (above ++ [model.name]) target rest problem)
    : Offence registry kind limit above model (index :: rest) problem :=
  offence_cons_iff.mpr
    ⟨definition, entry, compiles, taken, Or.inr ⟨target, found, deeper⟩⟩

/-- An offence behind a followed relation whose target is found is one below the target. -/
theorem Offence.below (h : Offence registry kind limit above model (index :: rest) problem)
    (compiles : model.definition = .ok definition)
    (taken : (definition.followed kind)[index]? = some entry)
    (found : registry.get entry.2.target = .ok target)
    : Offence registry kind limit (above ++ [model.name]) target rest problem := by
  obtain ⟨same, _, again, turned, behind⟩ := offence_cons_iff.mp h
  obtain rfl := Except.ok.inj (compiles.symm.trans again)
  obtain rfl := Option.some.inj (taken.symm.trans turned)
  rcases behind with ⟨_, _, absent, _⟩ | ⟨reached, refound, deeper⟩
  · exact absurd (Registry.mem_names_of_get found) absent
  · obtain rfl := Except.ok.inj (found.symm.trans refound)
    exact deeper

end Behind

/-- No model further than a step beyond the limit offends. -/
theorem Offence.length_above_le (h : Offence registry kind limit above model point problem)
    : above.length ≤ limit + 1 := by
  cases h <;> omega

/-- At one point stands one offence, by induction on the point. -/
theorem Offence.unique {other : SchemaError}
    (left : Offence registry kind limit above model point problem)
    (right : Offence registry kind limit above model point other)
    : problem = other := by
  induction point generalizing above model with
  | nil =>
      rcases offence_nil_iff.mp left with ⟨within, refused⟩ | ⟨beyond, rfl⟩
      · rcases offence_nil_iff.mp right with ⟨_, again⟩ | ⟨beyond, _⟩
        · exact Except.error.inj (refused.symm.trans again)
        · omega
      · rcases offence_nil_iff.mp right with ⟨within, _⟩ | ⟨_, rfl⟩
        · omega
        · rfl
  | cons index rest ih =>
      obtain ⟨definition, entry, compiles, taken, behind⟩ := offence_cons_iff.mp left
      -- A target is unknown or found, so both offences are of one sort.
      rcases behind with ⟨_, _, absent, rfl⟩ | ⟨target, found, deeper⟩
      · obtain ⟨same, _, again, retaken, other⟩ := offence_cons_iff.mp right
        obtain rfl := Except.ok.inj (compiles.symm.trans again)
        obtain rfl := Option.some.inj (taken.symm.trans retaken)
        rcases other with ⟨_, _, _, rfl⟩ | ⟨target, found, _⟩
        · rfl
        · exact absurd (Registry.mem_names_of_get found) absent
      · exact ih deeper (right.below compiles taken found)

-----------------------------------------------------------------------------------------
-- An unrolling stops at the first offence
-----------------------------------------------------------------------------------------

/-- One model further down there is a level less up to the one beyond the limit. -/
theorem levels_below {levels : Nat} (total : above.length + (levels + 1) = limit + 1)
    (model : Model)
    : (above ++ [model.name]).length + levels = limit + 1 := by
  simp only [List.length_append, List.length_singleton]
  omega

/-- An unrolling that has a body meets no offence, by induction on the levels. -/
theorem not_offence_of_unroll_ok {levels : Nat} {body : Document}
    (total : above.length + levels = limit + 1)
    (h : unroll registry kind levels model = .ok body)
    : ¬ Offence registry kind limit above model point problem := by
  induction levels generalizing above model body point with
  | zero => contradiction
  | succ levels ih =>
      intro offence
      obtain ⟨definition, compiles, targets⟩ := unroll_succ_ok_iff.mp ⟨body, h⟩
      cases point with
      | nil =>
          rcases offence_nil_iff.mp offence with ⟨_, refused⟩ | ⟨beyond, _⟩
          · rw [compiles] at refused
            contradiction
          · omega
      | cons index rest =>
          obtain ⟨same, entry, again, taken, _⟩ := offence_cons_iff.mp offence
          obtain rfl := Except.ok.inj (compiles.symm.trans again)
          obtain ⟨declared, followed⟩ := List.mem_filter.mp (List.mem_of_getElem? taken)
          obtain ⟨target, found, _, unrolled⟩ := targets entry.1 entry.2 declared followed
          exact ih (levels_below total model) unrolled (offence.below compiles taken found)

/-- A followed relation that is embedded has no offence behind it. -/
theorem not_offence_of_embedTarget_ok {levels index : Nat} {rest : List Nat}
    {definition : EntityDefinition} {entry : String × RelationDescriptor}
    {property : String × Property} (total : above.length + (levels + 1) = limit + 1)
    (compiles : model.definition = .ok definition)
    (taken : (definition.followed kind)[index]? = some entry)
    (h : embedTarget registry (unroll registry kind levels) entry = .ok property)
    : ¬ Offence registry kind limit above model (index :: rest) problem := by
  intro offence
  obtain ⟨target, body, found, unrolled, _⟩ := embedTarget_eq_ok_iff.mp h
  exact not_offence_of_unroll_ok (levels_below total model) unrolled
    (offence.below compiles taken found)

/-- An offence behind a relation of a compiled model comes first if there is none behind the
relations before it and none before it behind its own.
-/
theorem FirstOffence.of_cons {definition : EntityDefinition} {index : Nat} {rest : List Nat}
    (compiles : model.definition = .ok definition) (within : above.length ≤ limit)
    (offends : Offence registry kind limit above model (index :: rest) problem)
    (before
      : ∀ {earlier other another},
          earlier < index
          → ¬ Offence registry kind limit above model (earlier :: other) another)
    (first
      : ∀ {other another},
          Offence registry kind limit above model (index :: other) another → ¬ other < rest)
    : FirstOffence registry kind limit above model (index :: rest) problem := by
  refine ⟨offends, ?_⟩
  intro place another offence smaller
  cases place with
  | nil =>
      rcases offence_nil_iff.mp offence with ⟨_, refused⟩ | ⟨beyond, _⟩
      · rw [compiles] at refused
        contradiction
      · omega
  | cons earlier other =>
      rcases List.cons_lt_cons_iff.mp smaller with lt | ⟨rfl, lt⟩
      · exact before lt offence
      · exact first offence lt

/-- An unrolling that stops does so at its first offence, by induction on the levels: a relation
at which a traversal fails is the first that has an offence behind it.
-/
theorem exists_firstOffence_of_unroll {levels : Nat} {stop : Stop}
    (total : above.length + levels = limit + 1)
    (h : unroll registry kind levels model = .error stop)
    : ∃ point problem,
        stop.toHalt (some limit) above = .refused problem
        ∧ FirstOffence registry kind limit above model point problem := by
  induction levels generalizing above model stop with
  | zero =>
      obtain rfl := Except.error.inj h
      exact ⟨[], _, rfl, offence_nil_iff.mpr (Or.inr ⟨total, rfl⟩), fun _ => List.not_lt_nil _⟩
  | succ levels ih =>
      have within : above.length ≤ limit := by omega
      cases compiles : model.definition with
      | error problem =>
          rw [unroll_refused compiles] at h
          obtain rfl := Except.error.inj h
          exact ⟨[], problem, Stop.toHalt_refused _ _ _,
            offence_nil_iff.mpr (Or.inl ⟨within, compiles⟩), fun _ => List.not_lt_nil _⟩
      | ok definition =>
          rw [unroll_compiled compiles, Except.map_eq_error_iff,
            Except.mapError_eq_error_iff] at h
          obtain ⟨inner, out, rfl⟩ := h
          obtain ⟨passed, entry, after, split, succeed, failed⟩ := List.mapM_eq_error_iff.mp out
          have taken : (definition.followed kind)[passed.length]? = some entry := by
            simp [split]
          have before {earlier : Nat} {other : List Nat} {another : SchemaError}
              (lt : earlier < passed.length)
              : ¬ Offence registry kind limit above model (earlier :: other) another := by
            have turned : (definition.followed kind)[earlier]? = some passed[earlier] := by
              rw [split, List.getElem?_append_left lt, List.getElem?_eq_getElem lt]
            obtain ⟨property, embeds⟩ := succeed _ (List.getElem_mem lt)
            exact not_offence_of_embedTarget_ok total compiles turned embeds
          rw [Stop.toHalt_below]
          rcases embedTarget_eq_error_iff.mp failed with
            ⟨cause, unknown, rfl⟩ | ⟨target, found, deeper⟩
          · obtain ⟨absent, rfl⟩ := Registry.get_eq_error_iff.mp unknown
            exact ⟨[passed.length], _, Stop.toHalt_refused _ _ _,
              .of_cons compiles within (.of_absent within compiles taken absent) before
                fun _ => List.not_lt_nil _⟩
          · obtain ⟨rest, problem, halts, least⟩ := ih (levels_below total model) deeper
            exact ⟨passed.length :: rest, problem, halts,
              .of_cons compiles within (least.offends.behind compiles taken found) before
                fun offence => least.first (offence.below compiles taken found)⟩

/-- Only one offence comes first. -/
theorem FirstOffence.unique {place : List Nat} {other : SchemaError}
    (left : FirstOffence registry kind limit above model point problem)
    (right : FirstOffence registry kind limit above model place other)
    : problem = other := by
  obtain rfl : point = place :=
    List.le_antisymm (List.not_lt.mp (left.first right.offends))
      (List.not_lt.mp (right.first left.offends))
  exact left.offends.unique right.offends

/-- A limited expansion fails exactly with its first offence. -/
theorem expand_error_iff_firstOffence {levels fuel : Nat}
    (leaves : Leaves above levels fuel (some limit)) (qualifier : Option String) (halt : Halt)
    : (expand Model.definition registry (some limit) kind fuel above qualifier model).outcome
        = .error halt
      ↔ ∃ point problem,
          halt = .refused problem
          ∧ FirstOffence registry kind limit above model point problem := by
  rw [expand_outcome registry kind leaves, Except.map_eq_error_iff,
    Except.mapError_eq_error_iff]
  constructor
  · rintro ⟨stop, out, rfl⟩
    exact exists_firstOffence_of_unroll leaves.1 out
  · rintro ⟨point, problem, rfl, least⟩
    cases out : unroll registry kind levels model with
    | ok body => exact absurd least.offends (not_offence_of_unroll_ok leaves.1 out)
    | error stop =>
        obtain ⟨_, _, halts, again⟩ := exists_firstOffence_of_unroll leaves.1 out
        exact ⟨stop, rfl, least.unique again ▸ halts⟩

-----------------------------------------------------------------------------------------
-- What stands before the first offence
-----------------------------------------------------------------------------------------

/-- The model is reached by the route, and each relation that it follows before the given one
has a target that is expanded without error where it stands.
-/
def ClearUpTo (registry : Registry) (kind : ViewKind) (limit : Nat) (above : List String)
    (model : Model) (taken : List Nat) (index : Nat)
    : Prop :=
  ∃ passed met definition,
    Route registry kind model taken passed met
    ∧ met.definition = .ok definition
    ∧ ∀ earlier entry,
        earlier < index
        → (definition.followed kind)[earlier]? = some entry
        → ∃ target document,
            registry.get entry.2.target = .ok target
            ∧ (expand Model.definition registry (some limit) kind
                  (fuelFor registry (some limit))
                  (above ++ passed.map Model.name ++ [met.name]) none target).outcome
              = .ok document

/-- A relation before the one that leads to the first offence is expanded without error: it
would offend before if it were not.
-/
theorem FirstOffence.expands_earlier {index earlier : Nat} {rest : List Nat}
    {definition : EntityDefinition} {entry : String × RelationDescriptor}
    (least : FirstOffence registry kind limit above model (index :: rest) problem)
    (within : above.length ≤ limit) (compiles : model.definition = .ok definition)
    (lt : earlier < index) (declared : (definition.followed kind)[earlier]? = some entry)
    : ∃ target document,
        registry.get entry.2.target = .ok target
        ∧ (expand Model.definition registry (some limit) kind (fuelFor registry (some limit))
              (above ++ [model.name]) none target).outcome
          = .ok document := by
  have before {other : List Nat} {another : SchemaError}
      : ¬ Offence registry kind limit above model (earlier :: other) another := fun offence =>
    least.first offence (List.cons_lt_cons_iff.mpr (Or.inl lt))
  have leaves
      : Leaves (above ++ [model.name]) (limit - above.length)
          (fuelFor registry (some limit)) (some limit) := by
    simp only [Leaves, fuelFor, List.length_append, List.length_singleton]
    omega
  cases found : registry.get entry.2.target with
  | error cause =>
      obtain ⟨absent, _⟩ := Registry.get_eq_error_iff.mp found
      exact absurd (.of_absent within compiles declared absent) before
  | ok target =>
      refine ⟨target, ?_⟩
      simp only [true_and]
      refine Except.exists_ok_iff.mpr fun halt failed => ?_
      obtain ⟨_, _, _, other⟩ := (expand_error_iff_firstOffence leaves none halt).mp failed
      exact before (other.offends.behind compiles declared found)

/-- At each model on the way to the first offence the relations before the one that leads on are
expanded without error, by induction on the way.
-/
theorem FirstOffence.clearUpTo
    (least : FirstOffence registry kind limit above model point problem)
    {taken : List Nat} {index : Nat} {rest : List Nat} (split : point = taken ++ index :: rest)
    : ClearUpTo registry kind limit above model taken index := by
  subst split
  induction taken generalizing above model with
  | nil =>
      obtain ⟨definition, _, compiles, _, behind⟩ := offence_cons_iff.mp least.offends
      have within : above.length ≤ limit := by
        rcases behind with ⟨within, _⟩ | ⟨_, _, deeper⟩
        · exact within
        · simpa using deeper.length_above_le
      refine ⟨[], model, definition, .here model, compiles, ?_⟩
      intro earlier entry lt declared
      simpa using least.expands_earlier within compiles lt declared
  | cons first taken ih =>
      obtain ⟨definition, entry, compiles, turn, behind⟩ := offence_cons_iff.mp least.offends
      rcases behind with ⟨_, empty, _⟩ | ⟨target, found, deeper⟩
      · simp at empty
      · have below
            : FirstOffence registry kind limit (above ++ [model.name]) target
                (taken ++ index :: rest) problem := by
          refine ⟨deeper, ?_⟩
          intro other another offence lt
          exact least.first (offence.behind compiles turn found)
            (List.cons_lt_cons_iff.mpr (Or.inr ⟨rfl, lt⟩))
        obtain ⟨passed, met, last, route, ends, clear⟩ := ih below
        refine ⟨model :: passed, met, last, .turn compiles turn found route, ends, ?_⟩
        simpa using clear

-----------------------------------------------------------------------------------------
-- The error of a view
-----------------------------------------------------------------------------------------

/-- A route starts at its model. -/
theorem Route.head? {passed : List Model} {met : Model}
    (h : Route registry kind model point passed met)
    : (passed ++ [met]).head? = some model := by
  cases h <;> rfl

/-- A route goes from model to model along followed relations, by induction on the route. -/
theorem Route.isChain {passed : List Model} {met : Model}
    (h : Route registry kind model point passed met)
    : (passed ++ [met]).IsChain (Follows registry kind) := by
  induction h with
  | here => exact .singleton _
  | turn compiles taken found rest ih =>
      obtain ⟨declared, followed⟩ := List.mem_filter.mp (List.mem_of_getElem? taken)
      refine ih.cons ?_
      intro next head
      obtain rfl := Option.some.inj (rest.head?.symm.trans head)
      exact ⟨_, _, _, compiles, declared, followed, found⟩

/-- The outcome of a view of the model under the limit is an error only for the first offence,
and for any first offence. The path to a model beyond the limit tells the models of a walk from
the viewed one to it, and such a model is reported whether it compiles or not.
-/
structure ReportsFirstOffence (registry : Registry) (kind : ViewKind) (limit : Nat)
    (model : Model) (outcome : Except Halt Document)
    : Prop where
  error_iff
    : ∀ halt,
        outcome = .error halt
        ↔ ∃ point problem,
            halt = .refused problem
            ∧ FirstOffence registry kind limit [] model point problem
  clear
    : ∀ {point problem taken index rest},
        FirstOffence registry kind limit [] model point problem
        → point = taken ++ index :: rest
        → ClearUpTo registry kind limit [] model taken index
  path
    : ∀ {shown path},
        outcome = .error (.refused (.depthExceeded shown path))
        → shown = limit
          ∧ ∃ models : List Model,
              path = models.map Model.name
              ∧ SchemaError.pathText path = " -> ".intercalate (models.map Model.name)
              ∧ models.length = limit + 2
              ∧ models.head? = some model
              ∧ models.IsChain (Follows registry kind)
  beyond
    : ∀ {point passed met},
        Route registry kind model point passed met
        → passed.length = limit + 1
        → (∀ {other another},
          Offence registry kind limit [] model other another → ¬ other < point)
        → outcome
          = .error (.refused (.depthExceeded limit (passed.map Model.name ++ [met.name])))

/-- A limited view reports the offence that comes first, depth first and in order of
declaration, whatever further offences there are.
-/
theorem generate_reportsFirstOffence (registry : Registry) (settings : ViewSettings)
    (kind : ViewKind) (limit : Nat) (model : Model) (qualifier : Option String)
    : ReportsFirstOffence registry kind limit model
        (View.generate registry { settings with maxDepth? := some limit } (.base kind) model
          qualifier) := by
  have leaves : Leaves [] (limit + 1) (fuelFor registry (some limit)) (some limit) := by
    simp [Leaves, fuelFor]
  have reported (halt : Halt)
      : View.generate registry { settings with maxDepth? := some limit } (.base kind) model
            qualifier
          = .error halt
        ↔ ∃ point problem,
            halt = .refused problem
            ∧ FirstOffence registry kind limit [] model point problem :=
    expand_error_iff_firstOffence leaves qualifier halt
  refine ⟨reported, fun least split => least.clearUpTo split, ?path, ?beyond⟩
  case path =>
    intro shown path failed
    obtain ⟨point, problem, same, least⟩ := (reported _).mp failed
    obtain rfl := Halt.refused.inj same
    cases least.offends with
    | broken _ _ refused =>
        obtain ⟨field, _, reason⟩ := Model.definition_error refused
        simp at reason
    | @tooDeep _ passed met route beyond =>
        have named
            : [] ++ passed.map Model.name ++ [met.name]
              = (passed ++ [met]).map Model.name := by
          simp
        refine ⟨rfl, passed ++ [met], named, congrArg SchemaError.pathText named, ?_,
          route.head?, route.isChain⟩
        simpa using beyond
  case beyond =>
    intro point passed met route length first
    refine (reported _).mpr ⟨point, _, rfl, ?_, first⟩
    exact .tooDeep route (by simpa using length)

/-- Reading a book under a limit of one leads to the author and back to the book, and nothing
offends before that.
-/
theorem readBook_reportsFirstOffence
    : ∃ point,
        FirstOffence bookTrade .full 1 [] bookModel point
          (.depthExceeded 1 ["Book", "Author", "Book"]) := by
  have failed
      : View.generate bookTrade { maxDepth? := some 1 } (.base .full) bookModel none
        = .error (.refused (.depthExceeded 1 ["Book", "Author", "Book"])) :=
    rfl
  obtain ⟨point, problem, same, least⟩ :=
    ((generate_reportsFirstOffence bookTrade {} .full 1 bookModel none).error_iff _).mp failed
  exact ⟨point, Halt.refused.inj same ▸ least⟩

end EntityViews
