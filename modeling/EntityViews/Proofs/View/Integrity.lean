import EntityViews.Proofs.Registry.Integrity
import EntityViews.Proofs.View.Forms
import EntityViews.Proofs.View.Walks

/-! Views of the models of an intact registry.
They meet nothing but registered models that compile, so only a limit refuses them. Where the
dependencies have no cycle, the number of models bounds all walks and no limit from there on does.
-/

namespace EntityViews

variable {registry : Registry} {kind : ViewKind} {model : Model}
  {graph : List (String × List String)}

/-- Models of an intact registry resolve. -/
theorem resolves_of_checkIntegrity (intact : registry.checkIntegrity = .ok ())
    (registered : model ∈ registry.models)
    : Resolves registry kind model := by
  obtain ⟨definition, compiles, targets⟩ :=
    Registry.checkIntegrity_eq_ok_iff.mp intact model registered
  refine ⟨definition, compiles, ?_⟩
  intro name relation declared _
  exact Registry.exists_get_of_mem_names (targets name relation declared)

/-- Unrolling a model of an intact registry gives a body or runs out of levels, by induction on
the levels: targets are registered in turn.
-/
theorem unroll_ne_refused (intact : registry.checkIntegrity = .ok ())
    (registered : model ∈ registry.models) (levels : Nat) (problem : SchemaError)
    : unroll registry kind levels model ≠ .error (.refused problem) := by
  induction levels generalizing model with
  | zero => simp [unroll]
  | succ levels ih =>
      intro refused
      obtain ⟨definition, compiles, targets⟩ : Resolves registry kind model :=
        resolves_of_checkIntegrity intact registered
      rw [unroll_compiled compiles, Except.map_eq_error_iff,
        Except.mapError_eq_error_iff] at refused
      obtain ⟨stop, out, below⟩ := refused
      obtain ⟨_, entry, _, split, _, failed⟩ := List.mapM_eq_error_iff.mp out
      have followed : entry ∈ definition.followed kind := by simp [split]
      obtain ⟨declared, follows⟩ := List.mem_filter.mp followed
      obtain ⟨target, found⟩ := targets entry.1 entry.2 declared follows
      cases stop with
      | tooDeep path => contradiction
      | refused cause =>
          rcases embedTarget_eq_error_iff.mp failed with
            ⟨_, unknown, _⟩ | ⟨other, refound, deeper⟩
          · rw [found] at unknown
            contradiction
          · obtain rfl := Stop.refused.inj below
            exact ih (Registry.get_eq_ok_iff.mp refound).1 deeper

/-- Following a relation is going along a dependency. -/
theorem Follows.pointsTo {target : Model} (h : Follows registry kind model target)
    (told : registry.dependencies = .ok graph) (registered : model ∈ registry.models)
    : PointsTo graph model.name target.name := by
  obtain ⟨definition, name, relation, compiles, declared, _, found⟩ := h
  rw [(Registry.get_eq_ok_iff.mp found).2]
  exact Registry.pointsTo_of_dependencies told registered compiles declared

/-- A walk passes as many different names as it has steps, all of them registered and none that
of its first model, by induction on the walk. A name met again would lead back to itself.
-/
theorem Walk.exists_path {steps : Nat} {first last : Model}
    (h : Walk registry kind steps first last) (told : registry.dependencies = .ok graph)
    (acyclic : Acyclic graph) (registered : first ∈ registry.models)
    : ∃ path,
        path.length = steps
        ∧ path ⊆ registry.names
        ∧ (first.name :: path).Nodup
        ∧ ∀ name ∈ path, Relation.TransGen (PointsTo graph) first.name name := by
  induction h with
  | here => exact ⟨[], rfl, List.nil_subset _, List.nodup_singleton _, by simp⟩
  | @step _ first second _ follows _ ih =>
      have edge := follows.pointsTo told registered
      obtain ⟨_, _, _, _, _, _, found⟩ := follows
      have known := (Registry.get_eq_ok_iff.mp found).1
      obtain ⟨path, length, within, distinct, reached⟩ := ih known
      have onward
          : ∀ name ∈ second.name :: path,
              Relation.TransGen (PointsTo graph) first.name name := by
        intro name member
        rcases List.mem_cons.mp member with rfl | later
        · exact .single edge
        · exact .head edge (reached name later)
      refine ⟨second.name :: path, by simp [length], ?_, ?_, onward⟩
      · exact List.cons_subset.mpr ⟨Registry.mem_names_of_mem known, within⟩
      · exact List.nodup_cons.mpr ⟨fun again => acyclic _ (onward _ again), distinct⟩

/-- Without cycles a walk from a registered model has fewer steps than there are models. -/
theorem Walk.lt_size {steps : Nat} {first last : Model}
    (h : Walk registry kind steps first last) (told : registry.dependencies = .ok graph)
    (acyclic : Acyclic graph) (registered : first ∈ registry.models)
    : steps < registry.size := by
  obtain ⟨path, length, within, distinct, _⟩ := h.exists_path told acyclic registered
  have named : first.name ∈ registry.names := Registry.mem_names_of_mem registered
  have bound := distinct.length_le_of_subset (List.cons_subset.mpr ⟨named, within⟩)
  rwa [List.length_cons, length, Registry.length_names] at bound

/-- Walks from a registered model only meet registered ones. -/
theorem Walk.registered {steps : Nat} {first last : Model}
    (h : Walk registry kind steps first last) (registered : first ∈ registry.models)
    : last ∈ registry.models := by
  induction h with
  | here => exact registered
  | step follows _ ih =>
      obtain ⟨_, _, _, _, _, _, found⟩ := follows
      exact ih (Registry.get_eq_ok_iff.mp found).1

/-- Without cycles a model of an intact registry unrolls over as many levels as there are
models, or any more.
-/
theorem exists_body_of_acyclic (intact : registry.checkIntegrity = .ok ())
    (told : registry.dependencies = .ok graph) (acyclic : Acyclic graph)
    (registered : model ∈ registry.models) {levels : Nat} (enough : registry.size ≤ levels)
    : ∃ body, unroll registry kind levels model = .ok body := by
  refine unroll_ok_iff.mpr fun steps met walk => ⟨?_, ?_⟩
  · exact Nat.lt_of_lt_of_le (walk.lt_size told acyclic registered) enough
  · exact resolves_of_checkIntegrity intact (walk.registered registered)

/-- Dependencies along which some measure falls have no cycle. -/
theorem acyclic_of_measure (measure : String → Nat)
    (falls : ∀ source target, PointsTo graph source target → measure target < measure source)
    : Acyclic graph := by
  intro name cycle
  have lower : ∀ {last}, Relation.TransGen (PointsTo graph) name last
      → measure last < measure name := by
    intro last reached
    induction reached with
    | single edge => exact falls _ _ edge
    | tail _ edge ih => exact Nat.lt_trans (falls _ _ edge) ih
  exact Nat.lt_irrefl _ (lower cycle)

/-- A registry that passes its check has views and forms of all its models, unless the limit
refuses one. It tells its dependencies, and if these have no cycle then no limit from one below
the number of models on refuses any view, nor does a view fail without a limit.
-/
theorem generate_of_checkIntegrity (intact : registry.checkIntegrity = .ok ())
    (registered : model ∈ registry.models) (settings : ViewSettings) (view : View)
    (qualifier : Option String)
    : (∀ limit,
          (∃ document,
              View.generate registry { settings with maxDepth? := some limit } view model
                  qualifier
                = .ok document)
          ∨ ∃ path,
              View.generate registry { settings with maxDepth? := some limit } view model
                  qualifier
                = .error (.refused (.depthExceeded limit path)))
      ∧ ∃ graph,
          registry.dependencies = .ok graph
          ∧ (Acyclic graph
            → (∀ limit,
                registry.size - 1 ≤ limit
                → ∃ document,
                    View.generate registry { settings with maxDepth? := some limit } view model
                        qualifier
                      = .ok document)
              ∧ ∃ document,
                  View.generate registry { settings with maxDepth? := none } view model
                      qualifier
                    = .ok document) := by
  have answered (limit? : Option Nat)
      : (∃ document,
            View.generate registry { settings with maxDepth? := limit? } view model qualifier
              = .ok document)
        ↔ ∃ body,
            unroll registry view.baseKind (levelsFor registry limit?) model = .ok body := by
    rw [exists_generate_ok_iff none]
    simp [generate_eq_ok_iff]
  constructor
  · intro limit
    cases unrolled : unroll registry view.baseKind (limit + 1) model with
    | ok body => exact Or.inl ((answered (some limit)).mpr ⟨body, unrolled⟩)
    | error stop =>
        cases stop with
        | refused problem => exact absurd unrolled (unroll_ne_refused intact registered _ _)
        | tooDeep path =>
            refine Or.inr ⟨path, (generate_error_iff none).mpr ?_⟩
            simp [generate_base, levelsFor, unrolled, Stop.toHalt]
  · obtain ⟨graph, told⟩ := Registry.exists_dependencies_of_checkIntegrity intact
    refine ⟨graph, told, fun acyclic => ⟨?_, ?_⟩⟩
    · intro limit enough
      refine (answered (some limit)).mpr ?_
      exact exists_body_of_acyclic intact told acyclic registered (Nat.le_add_of_sub_le enough)
    · refine (answered none).mpr ?_
      exact exists_body_of_acyclic intact told acyclic registered (Nat.le_add_right _ 2)

/-- A line of an order stands for itself. -/
def lineModel : Model :=
  { serial := 0, name := "Line", fields := .ofList [("quantity", .scalar .integer)] }

/-- An order is created and read together with its lines. -/
def orderModel : Model :=
  {
    serial := 1,
    name := "Order",
    fields := .ofList
      [
        ("lines",
          .relation
            {
              kind := .oneToMany,
              target := .name "Line",
              cascade := .only [.insert],
              eager := true
            })
      ]
  }

/-- Orders and their lines, which do not point back. -/
def orderDesk : Registry :=
  .ofModels [lineModel, orderModel] (by decide)

/-- Dependencies lead from orders to lines. -/
theorem orderDesk_acyclic {graph : List (String × List String)}
    (h : orderDesk.dependencies = .ok graph)
    : Acyclic graph := by
  obtain rfl : [("Line", []), ("Order", ["Line"])] = graph := Except.ok.inj h
  refine acyclic_of_measure (fun name => if name = "Order" then 1 else 0) ?_
  rintro source target ⟨targets, listed, member⟩
  simp only [List.mem_cons, Prod.mk.injEq, List.not_mem_nil, or_false] at listed
  rcases listed with ⟨rfl, rfl⟩ | ⟨rfl, rfl⟩
  · contradiction
  · obtain rfl := List.mem_singleton.mp member
    decide

/-- An order can be read under a limit of one and more, and without a limit. -/
theorem readOrder_answered
    : orderDesk.checkIntegrity = .ok ()
      ∧ orderModel ∈ orderDesk.models
      ∧ (∀ limit,
        1 ≤ limit
        → ∃ document,
            View.generate orderDesk { maxDepth? := some limit } (.base .full) orderModel none
              = .ok document)
      ∧ ∃ document,
          View.generate orderDesk { maxDepth? := none } (.base .full) orderModel none
            = .ok document := by
  have intact : orderDesk.checkIntegrity = .ok () := rfl
  have registered : orderModel ∈ orderDesk.models := by simp [orderDesk]
  obtain ⟨_, graph, told, answered⟩ :=
    generate_of_checkIntegrity intact registered {} (.base .full) none
  exact ⟨intact, registered, answered (orderDesk_acyclic told)⟩

end EntityViews
