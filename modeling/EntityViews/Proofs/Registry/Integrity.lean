import EntityViews.Proofs.FirstRefusal
import EntityViews.Proofs.Registry.Lookup
import Mathlib.Logic.Relation

/-! What the checks of a registry tell about its models.
An intact registry compiles model by model and its relations point to registered models. Its
dependencies hold every relation, whether a view follows it or not.
-/

namespace EntityViews

/-- A source of the graph lists the target. -/
def PointsTo (graph : List (String × List String)) (source target : String) : Prop :=
  ∃ targets, (source, targets) ∈ graph ∧ target ∈ targets

/-- No name leads back to itself. -/
def Acyclic (graph : List (String × List String)) : Prop :=
  ∀ name, ¬ Relation.TransGen (PointsTo graph) name name

namespace Registry

variable {registry : Registry} {model : Model} {definition : EntityDefinition}

/-- A target passes when it is registered. -/
theorem checkTarget_eq_ok_iff {target : String}
    : (registry.checkTarget target : Except SchemaError Unit) = .ok ()
      ↔ target ∈ registry.names := by
  rw [← contains_iff, checkTarget]
  cases registry.contains target with
  | true => simp
  | false =>
      simp only [Bool.false_eq_true, if_false, iff_false]
      intro passed
      contradiction

/-- An intact registry has models that compile, all of whose relations point to registered ones.
-/
theorem checkIntegrity_eq_ok_iff
    : registry.checkIntegrity = .ok ()
      ↔ ∀ model ∈ registry.models,
          ∃ definition,
            model.definition = .ok definition
            ∧ ∀ name relation,
                (name, relation) ∈ definition.relations.entries
                → relation.target ∈ registry.names := by
  unfold checkIntegrity checkIntegrityWith
  rw [List.forM_eq_ok_iff]
  refine forall₂_congr fun model _ => ?_
  simp only [checkModelWith, Except.bind_eq_ok_iff, List.forM_eq_ok_iff,
    checkTarget_eq_ok_iff, OrderedMap.values, List.forall_mem_map, Prod.forall]

/-- The dependencies are told when every model compiles. -/
theorem exists_dependencies_iff
    : (∃ graph, registry.dependencies = .ok graph)
      ↔ ∀ model ∈ registry.models, ∃ definition, model.definition = .ok definition := by
  rw [dependencies, dependenciesWith_eq, List.exists_mapM_eq_ok_iff]
  refine forall₂_congr fun model _ => ?_
  cases model.definition <;> simp

/-- An intact registry tells its dependencies. -/
theorem exists_dependencies_of_checkIntegrity (h : registry.checkIntegrity = .ok ())
    : ∃ graph, registry.dependencies = .ok graph := by
  refine exists_dependencies_iff.mpr fun model registered => ?_
  obtain ⟨definition, compiles, _⟩ := checkIntegrity_eq_ok_iff.mp h model registered
  exact ⟨definition, compiles⟩

/-- The dependencies hold all relations of every model. -/
theorem pointsTo_of_dependencies {graph : List (String × List String)}
    (h : registry.dependencies = .ok graph) (registered : model ∈ registry.models)
    (compiles : model.definition = .ok definition) {name : String}
    {relation : RelationDescriptor} (declared : (name, relation) ∈ definition.relations.entries)
    : PointsTo graph model.name relation.target := by
  rw [dependencies, dependenciesWith_eq] at h
  obtain ⟨entry, member, listed⟩ := List.exists_mem_of_mapM_eq_ok h registered
  rw [compiles, Except.ok_bind, Except.pure_eq_ok] at listed
  obtain rfl := Except.ok.inj listed
  refine ⟨_, member, ?_⟩
  exact List.mem_map.mpr ⟨relation, List.mem_map.mpr ⟨(name, relation), declared, rfl⟩, rfl⟩

end Registry

end EntityViews
