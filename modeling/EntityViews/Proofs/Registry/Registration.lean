import EntityViews.Manifest
import EntityViews.Proofs.Registry.Lookup
import Mathlib.Data.List.Range

/-! Registering the models of a manifest.
Where all names are free, the models stand behind those registered before, in order. Their serial
numbers tell them apart.
-/

namespace EntityViews

namespace Registry

variable {registry extended : Registry} {model : Model}

theorem register_of_taken (taken : model.name ∈ registry.names)
    : registry.register model = .error (.duplicateModel model.name) :=
  if_pos (contains_iff.mpr taken)

theorem register_of_free (free : model.name ∉ registry.names)
    : registry.register model = .ok (registry.insert model) :=
  if_neg fun taken => free (contains_iff.mp taken)

/-- A model under a free name comes last. -/
theorem models_insert (free : model.name ∉ registry.names)
    : (registry.insert model).models = registry.models ++ [model] := by
  rw [models, OrderedMap.values, insert, OrderedMap.entries_insert_of_not_mem model free,
    List.map_append]
  rfl

/-- A model that is registered comes last. -/
theorem models_of_register (h : registry.register model = .ok extended)
    : extended.models = registry.models ++ [model] := by
  by_cases taken : model.name ∈ registry.names
  · rw [register_of_taken taken] at h
    contradiction
  · rw [register_of_free taken] at h
    obtain rfl := Except.ok.inj h
    exact models_insert taken

/-- Models that are all registered come last in their order, by induction on them. -/
theorem models_of_registerAll {models : List Model}
    (h : registry.registerAll models = (extended, .ok ()))
    : extended.models = registry.models ++ models := by
  induction models generalizing registry with
  | nil =>
      obtain rfl := (Prod.mk.inj h).1
      exact (List.append_nil _).symm
  | cons model rest ih =>
      unfold registerAll at h
      split at h
      · rename_i longer registered
        rw [ih h, models_of_register registered, List.append_assoc]
        rfl
      · have failed := (Prod.mk.inj h).2
        contradiction

/-- The names of models that are all registered come last, in their order. -/
theorem names_of_registerAll {models : List Model}
    (h : registry.registerAll models = (extended, .ok ()))
    : extended.names = registry.names ++ models.map Model.name := by
  rw [← map_name_models, models_of_registerAll h, List.map_append, map_name_models]

end Registry

/-- The models of a manifest are numbered one after the other. -/
theorem Manifest.map_serial_modelsFrom (manifest : Manifest) (serial : Nat)
    : (manifest.modelsFrom serial).map Model.serial
      = List.range' serial manifest.models.entries.length := by
  have numbers
      : (manifest.modelsFrom serial).map Model.serial
        = (manifest.models.entries.zipIdx.map Prod.snd).map (serial + ·) := by
    rw [modelsFrom, List.map_map, List.map_map]
    rfl
  rw [numbers, List.zipIdx_map_snd, List.map_add_range', Nat.add_zero]

end EntityViews
