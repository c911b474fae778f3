import EntityViews.Proofs.NamedEntries
import EntityViews.Registry
import Mathlib.Data.List.Nodup

/-! Looking up registered models by name.
Every model is kept under its own name, so a name finds the one registered model that bears it.
-/

namespace EntityViews

namespace Registry

variable {registry : Registry} {name : String} {model : Model}

/-- The models of a registry stand under their own names. -/
theorem entries_byName (registry : Registry)
    : registry.byName.entries = registry.models.map fun model => (model.name, model) := by
  rw [models, OrderedMap.values, List.map_map]
  refine (List.map_id _).symm.trans (List.map_congr_left fun entry member => ?_)
  exact Prod.ext (registry.named entry member) rfl

theorem map_name_models (registry : Registry)
    : registry.models.map Model.name = registry.names := by
  rw [names, OrderedMap.names, entries_byName, Members.names, List.map_map]
  rfl

theorem distinct (registry : Registry) : (registry.models.map Model.name).Nodup :=
  registry.map_name_models ▸ registry.byName.distinct

theorem nodup_names (registry : Registry) : registry.names.Nodup :=
  registry.byName.distinct

theorem length_models (registry : Registry) : registry.models.length = registry.size :=
  List.length_map _

theorem length_names (registry : Registry) : registry.names.length = registry.size :=
  List.length_map _

theorem mem_byName_iff
    : (name, model) ∈ registry.byName.entries ↔ model ∈ registry.models ∧ model.name = name := by
  simp only [entries_byName, List.mem_map, Prod.mk.injEq]
  constructor
  · intro found
    obtain ⟨other, member, named, rfl⟩ := found
    exact ⟨member, named⟩
  · intro found
    exact ⟨model, found.1, found.2, rfl⟩

theorem mem_names_of_mem (registered : model ∈ registry.models)
    : model.name ∈ registry.names :=
  map_name_models registry ▸ List.mem_map_of_mem registered

/-- A name finds the registered model that bears it. -/
theorem get_eq_ok_iff
    : registry.get name = .ok model ↔ model ∈ registry.models ∧ model.name = name := by
  rw [← mem_byName_iff, ← Members.lookup_eq_some_iff registry.byName.distinct, get, find?,
    OrderedMap.get?]
  cases registry.byName.entries.lookup name <;> simp

/-- A name that finds nothing is not that of a registered model, and is reported. -/
theorem get_eq_error_iff {problem : SchemaError}
    : registry.get name = .error problem
      ↔ name ∉ registry.names ∧ problem = .unknownModel name := by
  rw [names, OrderedMap.names, ← Members.lookup_eq_none_iff, get, find?, OrderedMap.get?]
  cases registry.byName.entries.lookup name <;> simp [eq_comm]

theorem contains_iff : registry.contains name = true ↔ name ∈ registry.names :=
  Members.isSome_lookup_iff

/-- A name that finds a model is that of a registered one. -/
theorem mem_names_of_get (h : registry.get name = .ok model) : name ∈ registry.names := by
  obtain ⟨member, rfl⟩ := get_eq_ok_iff.mp h
  exact mem_names_of_mem member

/-- A registered name finds its model. -/
theorem exists_get_of_mem_names (h : name ∈ registry.names)
    : ∃ model, registry.get name = .ok model := by
  rw [← map_name_models, List.mem_map] at h
  obtain ⟨model, member, named⟩ := h
  exact ⟨model, get_eq_ok_iff.mpr ⟨member, named⟩⟩

/-- Dependencies are told model by model, since each model is kept under its own name. -/
theorem dependenciesWith_eq {m : Type → Type} [Monad m] [LawfulMonad m]
    [MonadExceptOf SchemaError m] (define : Model → m EntityDefinition) (registry : Registry)
    : registry.dependenciesWith define
      = registry.models.mapM fun model => do
          let definition ← define model
          return (model.name, definition.relations.values.map RelationDescriptor.target) := by
  rw [dependenciesWith, entries_byName, List.mapM_map]
  rfl

/-- The registry of models that have names of their own. -/
def ofModels (models : List Model) (distinct : (models.map Model.name).Nodup) : Registry where
  byName :=
    ⟨models.map fun model => (model.name, model), by
      simpa [Members.names, Function.comp_def] using distinct⟩
  named := by simp

@[simp]
theorem models_ofModels {models : List Model} (distinct : (models.map Model.name).Nodup)
    : (ofModels models distinct).models = models := by
  simp [Registry.models, ofModels, OrderedMap.values, Function.comp_def]

end Registry

end EntityViews
