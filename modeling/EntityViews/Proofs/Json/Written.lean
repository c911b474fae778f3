import EntityViews.Json
import EntityViews.Proofs.FirstRefusal
import EntityViews.Proofs.NamedEntries

/-! Members that a writer puts together and a reader takes one after another.
A writer leaves out what says nothing. The reader starts from the defaults, so each member that
stands there has to lead to the value it was written for, and each that is left out to the default.
-/

namespace EntityViews

/-- No object in the value repeats a name. -/
inductive Json.Distinct : Json → Prop where
  | null : Distinct .null
  | boolean (value : Bool) : Distinct (.boolean value)
  | number (value : Number) : Distinct (.number value)
  | string (value : String) : Distinct (.string value)
  | array {items : List Json} (each : ∀ item ∈ items, Distinct item) : Distinct (.array items)
  | object {members : List (String × Json)} (names : (Members.names members).Nodup)
    (each : ∀ entry ∈ members, Distinct entry.2)
    : Distinct (.object members)

namespace Json

theorem distinct_object_iff {members : Members Json}
    : (object members).Distinct
      ↔ members.names.Nodup ∧ ∀ entry ∈ members, entry.2.Distinct := by
  constructor
  · rintro ⟨⟩
    exact ⟨‹_›, ‹_›⟩
  · rintro ⟨names, each⟩
    exact .object names each

theorem distinct_strings (values : List String) : (strings values).Distinct := by
  refine .array fun item member => ?_
  obtain ⟨value, _, rfl⟩ := List.mem_map.mp member
  exact .string value

/-- A map is written without repeated names if its values are. -/
theorem distinct_map {α : Type} (write : α → Json) {map : OrderedMap α}
    (h : ∀ entry ∈ map.entries, (write entry.2).Distinct)
    : (Json.object (map.entries.map fun entry => (entry.1, write entry.2))).Distinct := by
  refine .object ?_ fun entry member => ?_
  · rw [Members.names_map_values]
    exact map.distinct
  · obtain ⟨source, known, rfl⟩ := List.mem_map.mp member
    exact h source known

/-- The members have some of the names, in their order, and values without repeated names. -/
structure Among (names : List String) (members : Members Json) : Prop where
  sublist : members.names.Sublist names
  each : ∀ entry ∈ members, entry.2.Distinct

namespace Among

theorem one {name : String} {value : Json} (h : value.Distinct)
    : Among [name] [(name, value)] :=
  ⟨List.Sublist.refl _, by simpa using h⟩

theorem none (names : List String) : Among names [] :=
  ⟨List.nil_sublist _, by simp⟩

theorem append {names others : List String} {members more : Members Json}
    (h : Among names members) (hm : Among others more)
    : Among (names ++ others) (members ++ more) := by
  refine ⟨?_, fun entry member => ?_⟩
  · rw [Members.names_append]
    exact h.sublist.append hm.sublist
  · exact (List.mem_append.mp member).elim (h.each entry) (hm.each entry)

theorem flag (name : String) (value : Bool) : Among [name] (flag name value) := by
  cases value with
  | false => exact none _
  | true => exact one (.boolean true)

theorem given {name : String} {value? : Option Json}
    (h : ∀ value, value? = some value → value.Distinct)
    : Among [name] (given name value?) := by
  cases value? with
  | none => exact none _
  | some value => exact one (h value rfl)

/-- An optional value is written without repeated names if its type is. -/
theorem givenBy {α : Type} {name : String} {write : α → Json}
    (h : ∀ value, (write value).Distinct) (value? : Option α)
    : Among [name] (Json.given name (value?.map write)) := by
  refine given fun written found => ?_
  obtain ⟨value, _, rfl⟩ := Option.map_eq_some_iff.mp found
  exact h value

/-- Members of different names make an object without repeated names. -/
theorem distinct {names : List String} {members : Members Json} (h : Among names members)
    (different : names.Nodup)
    : (Json.object members).Distinct :=
  .object (h.sublist.nodup different) h.each

end Among

end Json

/-- Taking the members one after another leads from one state of a reader to another. -/
def Reads {ε σ : Type} (step : σ → String × Json → Except ε σ) (members : Members Json)
    (before after : σ)
    : Prop :=
  members.foldlM step before = .ok after

namespace Reads

variable {ε σ α : Type} {step : σ → String × Json → Except ε σ} {members more : Members Json}
  {before between after state : σ} {name : String}

theorem none (state : σ) : Reads step [] state state := rfl

theorem one {value : Json} (h : step before (name, value) = .ok after)
    : Reads step [(name, value)] before after := by
  rw [Reads, List.foldlM_cons, h]
  rfl

theorem append (h : Reads step members before between) (hm : Reads step more between after)
    : Reads step (members ++ more) before after := by
  rw [Reads, List.foldlM_append, h]
  exact hm

/-- A flag is read as it was, if the reader starts with the flag not set. -/
theorem flag (name : String) (set : σ → Bool → σ) (h : Reads step members before state)
    (unset : set state false = state)
    (read : step state (name, .boolean true) = .ok (set state true)) (value : Bool)
    : Reads step (members ++ Json.flag name value) before (set state value) := by
  refine h.append ?_
  cases value with
  | false =>
      rw [unset]
      exact none state
  | true => exact one read

/-- An optional value is read as it was, if the reader starts without one. -/
theorem givenBy (name : String) (write : α → Json) (set : σ → Option α → σ)
    (h : Reads step members before state) (unset : set state .none = state)
    (read : ∀ value, step state (name, write value) = .ok (set state (some value)))
    (value? : Option α)
    : Reads step (members ++ Json.given name (value?.map write)) before (set state value?) := by
  refine h.append ?_
  cases value? with
  | none =>
      rw [unset]
      exact none state
  | some value => exact one (read value)

/-- An optional value that is written as it stands is read as it was. -/
theorem given (name : String) (set : σ → Option Json → σ) (h : Reads step members before state)
    (unset : set state .none = state)
    (read : ∀ value, step state (name, value) = .ok (set state (some value)))
    (value? : Option Json)
    : Reads step (members ++ Json.given name value?) before (set state value?) := by
  simpa using h.givenBy name id set unset read value?

end Reads

end EntityViews
