import EntityViews.Proofs.Registry.Integrity
import EntityViews.Proofs.Registry.Registration
import EntityViews.Registry.Call
import Mathlib.Data.List.Dedup
import Mathlib.Data.List.Induction

/-! Registries after any number of calls.
A registry holds the models whose registration was the first for their name since the last reset,
in the order of the calls. Its answers are those that this history gives.
-/

namespace EntityViews

/-- No model before the place has the name of the model there. -/
def freshAt (models : List Model) (entry : Model × Nat) : Bool :=
  (models.take entry.2).all fun earlier => earlier.name != entry.1.name

/-- The models of a list before which no other has the same name, in order. -/
def firstsOfName (models : List Model) : List Model :=
  (models.zipIdx.filter (freshAt models)).map Prod.fst

/-- Some place of the list holds the model, and no place before it one of the same name. -/
def IsFirst (models : List Model) (model : Model) : Prop :=
  ∃ before after,
    models = before ++ model :: after ∧ ∀ earlier ∈ before, earlier.name ≠ model.name

section Firsts

variable {models : List Model} {model : Model} {name : String}

theorem freshAt_iff {place : Nat}
    : freshAt models (model, place) = true
      ↔ ∀ earlier ∈ models.take place, earlier.name ≠ model.name := by
  simp [freshAt]

/-- A model at the end is the first of its name unless one before it has that name. -/
theorem firstsOfName_append (models : List Model) (model : Model)
    : firstsOfName (models ++ [model])
      = firstsOfName models
        ++ if ∃ earlier ∈ models, earlier.name = model.name then [] else [model] := by
  -- Places before the end see what they saw without the model there.
  have before
      : models.zipIdx.filter (freshAt (models ++ [model]))
        = models.zipIdx.filter (freshAt models) := by
    refine List.filter_congr fun entry member => ?_
    have within : entry.2 < models.length := by
      simpa using (List.mem_zipIdx member).2.1
    rw [freshAt, freshAt, List.take_append_of_le_length (Nat.le_of_lt within)]
  have last
      : freshAt (models ++ [model]) (model, models.length) = true
        ↔ ¬ ∃ earlier ∈ models, earlier.name = model.name := by
    rw [freshAt_iff, List.take_left]
    simp
  unfold firstsOfName
  rw [List.zipIdx_append, List.filter_append, before, List.map_append, List.zipIdx_singleton,
    Nat.zero_add]
  by_cases taken : ∃ earlier ∈ models, earlier.name = model.name
  · rw [if_pos taken, List.filter_cons_of_neg (fun fresh => last.mp fresh taken)]
    rfl
  · rw [if_neg taken, List.filter_cons_of_pos (last.mpr taken)]
    rfl

theorem mem_names_firstsOfName
    : name ∈ (firstsOfName models).map Model.name ↔ ∃ model ∈ models, model.name = name := by
  induction models using List.reverseRecOn with
  | nil => simp [firstsOfName]
  | append_singleton models model ih =>
      rw [firstsOfName_append, List.map_append, List.mem_append, ih]
      by_cases taken : ∃ earlier ∈ models, earlier.name = model.name
      · rw [if_pos taken]
        obtain ⟨earlier, member, same⟩ := taken
        constructor
        · rintro (⟨other, known, rfl⟩ | absent)
          · exact ⟨other, List.mem_append_left _ known, rfl⟩
          · contradiction
        · rintro ⟨other, known, rfl⟩
          rcases List.mem_append.mp known with known | last
          · exact Or.inl ⟨other, known, rfl⟩
          · obtain rfl := List.mem_singleton.mp last
            exact Or.inl ⟨earlier, member, same⟩
      · rw [if_neg taken]
        simp [or_and_right, exists_or, eq_comm]

/-- Those listed are exactly the first of their names, by induction from the end. -/
theorem mem_firstsOfName : model ∈ firstsOfName models ↔ IsFirst models model := by
  simp only [firstsOfName, List.mem_map, List.mem_filter, Prod.exists, exists_and_right,
    exists_eq_right, freshAt_iff, List.mem_zipIdx_iff_getElem?]
  constructor
  · rintro ⟨place, found, fresh⟩
    obtain ⟨within, rfl⟩ := List.getElem?_eq_some_iff.mp found
    refine ⟨models.take place, models.drop (place + 1), ?_, fresh⟩
    rw [← List.drop_eq_getElem_cons within, List.take_append_drop]
  · rintro ⟨before, after, rfl, fresh⟩
    exact ⟨before.length, by simp, by simpa using fresh⟩

end Firsts

namespace RegistryCall

/-- The model that a call tries to register. -/
def model? : RegistryCall → Option Model
  | .register model => some model
  | .define serial name fields options => some ⟨serial, name, fields, options⟩
  | .reset => none

/-- The calls after the last reset. -/
def sinceReset (calls : List RegistryCall) : List RegistryCall :=
  (calls.reverse.takeWhile fun call => call.model?.isSome).reverse

/-- The models that the calls since the last reset try to register, in order. -/
def attempts (calls : List RegistryCall) : List Model :=
  (sinceReset calls).filterMap model?

/-- The registry after the calls. -/
def after (calls : List RegistryCall) : Registry :=
  calls.foldl (fun registry call => (call.perform registry).1) .empty

variable {call : RegistryCall} {model : Model}

theorem attempts_append_reset (calls : List RegistryCall)
    : attempts (calls ++ [.reset]) = [] := by
  simp [attempts, sinceReset, model?]

theorem attempts_append (calls : List RegistryCall) (h : call.model? = some model)
    : attempts (calls ++ [call]) = attempts calls ++ [model] := by
  simp [attempts, sinceReset, h]

theorem after_append (calls : List RegistryCall) (call : RegistryCall)
    : after (calls ++ [call]) = (call.perform (after calls)).1 := by
  simp [after]

/-- Every call that is no reset settles a registration, whether it makes the model or is given it.
-/
theorem perform_eq_settle (h : call.model? = some model) (registry : Registry)
    : call.perform registry = settle registry model (registry.register model) := by
  cases call with
  | register other =>
      obtain rfl := Option.some.inj h
      rfl
  | define serial name fields options =>
      obtain rfl := Option.some.inj h
      rfl
  | reset => contradiction

/-- A registration under a taken name is refused and changes nothing. -/
theorem perform_of_taken (h : call.model? = some model) {registry : Registry}
    (taken : model.name ∈ registry.names)
    : call.perform registry = (registry, .error (.duplicateModel model.name)) := by
  rw [perform_eq_settle h, Registry.register_of_taken taken]
  rfl

/-- A registration under a free name appends the model. -/
theorem perform_of_free (h : call.model? = some model) {registry : Registry}
    (free : model.name ∉ registry.names)
    : ∃ extended,
        call.perform registry = (extended, .ok (some model))
        ∧ extended.models = registry.models ++ [model] := by
  rw [perform_eq_settle h, Registry.register_of_free free]
  exact ⟨_, rfl, Registry.models_insert free⟩

/-- The registry holds the first models of their names among the attempts, by induction from the
last call on.
-/
theorem models_after (calls : List RegistryCall)
    : (after calls).models = firstsOfName (attempts calls) := by
  induction calls using List.reverseRecOn with
  | nil => rfl
  | append_singleton calls call ih =>
      rw [after_append]
      cases tries : call.model? with
      | none =>
          obtain rfl : call = .reset := by
            cases call with
            | register model => contradiction
            | define serial name fields options => contradiction
            | reset => rfl
          rw [attempts_append_reset]
          rfl
      | some model =>
          rw [attempts_append calls tries, firstsOfName_append, ← ih]
          have named
              : model.name ∈ (after calls).names
                ↔ ∃ earlier ∈ attempts calls, earlier.name = model.name := by
            rw [← Registry.map_name_models, ih, mem_names_firstsOfName]
          by_cases taken : ∃ earlier ∈ attempts calls, earlier.name = model.name
          · rw [if_pos taken, perform_of_taken tries (named.mpr taken), List.append_nil]
          · obtain ⟨extended, performed, models⟩ :=
              perform_of_free tries (mt named.mp taken)
            rw [if_neg taken, performed, models]

end RegistryCall

/-- The registry holds the first models of their names among those that calls have tried to
register, and answers accordingly.
-/
structure KeepsFirsts (attempts : List Model) (registry : Registry) : Prop where
  models : registry.models = firstsOfName attempts
  first : ∀ model, model ∈ registry.models ↔ IsFirst attempts model
  keys
    : registry.all.entries = (firstsOfName attempts).map fun model => (model.name, model)
  distinct : registry.names.Nodup
  get_ok
    : ∀ name model,
        registry.get name = .ok model ↔ IsFirst attempts model ∧ model.name = name
  get_error
    : ∀ name problem,
        registry.get name = .error problem
        ↔ (∀ model ∈ attempts, model.name ≠ name) ∧ problem = .unknownModel name
  contains
    : ∀ name, registry.contains name = true ↔ ∃ model ∈ attempts, model.name = name
  size : registry.size = (attempts.map Model.name).dedup.length
  isEmpty : registry.isEmpty = true ↔ attempts = []
  taken
    : ∀ call model,
        RegistryCall.model? call = some model
        → (∃ earlier ∈ attempts, earlier.name = model.name)
        → call.perform registry = (registry, .error (.duplicateModel model.name))
  free
    : ∀ call model,
        RegistryCall.model? call = some model
        → (∀ earlier ∈ attempts, earlier.name ≠ model.name)
        → ∃ extended,
            call.perform registry = (extended, .ok (some model))
            ∧ extended.models = registry.models ++ [model]

/-- The answers follow from the models that a registry holds. -/
theorem keepsFirsts_of_models {attempts : List Model} {registry : Registry}
    (h : registry.models = firstsOfName attempts)
    : KeepsFirsts attempts registry := by
  have named {name : String}
      : name ∈ registry.names ↔ ∃ model ∈ attempts, model.name = name := by
    rw [← Registry.map_name_models, h, mem_names_firstsOfName]
  have member {model : Model} : model ∈ registry.models ↔ IsFirst attempts model := by
    rw [h, mem_firstsOfName]
  refine ⟨h, fun _ => member, ?keys, registry.nodup_names, ?get_ok, ?get_error, ?contains, ?size,
    ?isEmpty, ?taken, ?free⟩
  case keys => rw [← h, Registry.all, Registry.entries_byName]
  case get_ok =>
    intro name model
    rw [Registry.get_eq_ok_iff, member]
  case get_error =>
    intro name problem
    rw [Registry.get_eq_error_iff, named]
    simp
  case contains =>
    intro name
    rw [Registry.contains_iff, named]
  case size =>
    have names : registry.names.Perm (attempts.map Model.name).dedup := by
      refine (List.perm_ext_iff_of_nodup registry.nodup_names (List.nodup_dedup _)).mpr ?_
      intro name
      exact named.trans (by rw [List.mem_dedup, List.mem_map])
    rw [← names.length_eq, Registry.length_names]
  case isEmpty =>
    have empty : registry.isEmpty = true ↔ registry.names = [] := by
      simp [Registry.isEmpty, OrderedMap.isEmpty, Registry.names, OrderedMap.names, Members.names]
    rw [empty, List.eq_nil_iff_forall_not_mem, List.eq_nil_iff_forall_not_mem]
    simp only [named]
    exact ⟨fun none model known => none _ ⟨model, known, rfl⟩,
      fun none name some => none _ some.choose_spec.1⟩
  case taken =>
    intro call model tries earlier
    exact RegistryCall.perform_of_taken tries (named.mpr earlier)
  case free =>
    intro call model tries none
    refine RegistryCall.perform_of_free tries fun taken => ?_
    obtain ⟨earlier, known, same⟩ := named.mp taken
    exact none earlier known same

namespace Registries

/-- The calls on the registry of a keeper. -/
def callsOn (keeper : Keeper) (calls : List (Keeper × RegistryCall)) : List RegistryCall :=
  (calls.filter fun call => call.1 = keeper).map Prod.snd

/-- Calls on the registries of others make no difference to that of a keeper. -/
theorem after_apply (calls : List (Keeper × RegistryCall)) (keeper : Keeper)
    : after calls keeper = RegistryCall.after (callsOn keeper calls) := by
  induction calls using List.reverseRecOn with
  | nil => rfl
  | append_singleton calls call ih =>
      obtain ⟨other, call⟩ := call
      rw [after, List.foldl_append, List.foldl_cons, List.foldl_nil, ← after]
      by_cases same : other = keeper
      · subst same
        have added : callsOn other (calls ++ [(other, call)]) = callsOn other calls ++ [call] := by
          simp [callsOn]
        rw [added, RegistryCall.after_append, ← ih]
        exact if_pos rfl
      · have kept : callsOn keeper (calls ++ [(other, call)]) = callsOn keeper calls := by
          simp [callsOn, same]
        rw [kept, ← ih]
        exact if_neg (Ne.symm same)

/-- After any calls, the registry of each part of a program and the one they share hold the models
whose registration there was the first for their name since the last reset there, in the order
of the calls, and answer accordingly.
-/
theorem after_keepsFirsts (calls : List (Keeper × RegistryCall)) (keeper : Keeper)
    : KeepsFirsts (RegistryCall.attempts (callsOn keeper calls)) (after calls keeper) := by
  refine keepsFirsts_of_models ?_
  rw [after_apply, RegistryCall.models_after]

end Registries

end EntityViews
