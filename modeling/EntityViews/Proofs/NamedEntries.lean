import EntityViews.OrderedMap
import Mathlib.Data.List.Induction

/-! Named entries without repeated names.
Looking up a name then finds the one entry of that name, and putting the entries one after
another replaces none of them.
-/

namespace EntityViews

namespace Members

variable {α : Type u} {β : Type v}

@[simp]
theorem names_append (first second : Members α)
    : names (first ++ second) = names first ++ names second :=
  List.map_append

theorem mem_names {members : Members α} {name : String}
    : name ∈ members.names ↔ ∃ value, (name, value) ∈ members := by
  simp [names]

/-- Values may change under their names. -/
theorem names_map_values (f : α → β) (members : Members α)
    : names (members.map fun entry => (entry.1, f entry.2)) = members.names := by
  simp [names]

/-- Leaving out entries leaves out their names. -/
theorem names_filter_sublist (keep : String × α → Bool) (members : Members α)
    : (names (members.filter keep)).Sublist members.names :=
  List.filter_sublist.map Prod.fst

/-- A name has one value, by induction over the entries. -/
theorem value_unique {members : Members α} (distinct : members.names.Nodup) {name : String}
    {left right : α} (hl : (name, left) ∈ members) (hr : (name, right) ∈ members)
    : left = right := by
  induction members with
  | nil => exact absurd hl List.not_mem_nil
  | cons entry rest ih =>
      obtain ⟨fresh, others⟩ := List.nodup_cons.mp distinct
      rcases List.mem_cons.mp hl with rfl | leftLater
      · rcases List.mem_cons.mp hr with same | rightLater
        · exact (Prod.mk.inj same).2.symm
        · exact (fresh (mem_names.mpr ⟨right, rightLater⟩)).elim
      · rcases List.mem_cons.mp hr with rfl | rightLater
        · exact (fresh (mem_names.mpr ⟨left, leftLater⟩)).elim
        · exact ih others leftLater rightLater

/-- A lookup finds exactly the entry of its name. -/
theorem lookup_eq_some_iff {members : Members α} (distinct : members.names.Nodup)
    {name : String} {value : α}
    : members.lookup name = some value ↔ (name, value) ∈ members := by
  induction members with
  | nil => simp
  | cons entry rest ih =>
      obtain ⟨key, first⟩ := entry
      obtain ⟨fresh, others⟩ := List.nodup_cons.mp distinct
      by_cases h : name = key
      · subst h
        have absent : (name, value) ∉ rest := fun member =>
          fresh (mem_names.mpr ⟨value, member⟩)
        simp [absent, eq_comm]
      · have differs : (name == key) = false := by simpa using h
        simp [List.lookup_cons, differs, h, ih others]

/-- A lookup finds something exactly under the names of the entries. -/
theorem isSome_lookup_iff {members : Members α} {name : String}
    : (members.lookup name).isSome ↔ name ∈ members.names := by
  induction members with
  | nil => simp
  | cons entry rest ih =>
      obtain ⟨key, value⟩ := entry
      by_cases h : name = key
      · subst h
        simp
      · have differs : (name == key) = false := by simpa using h
        simp [List.lookup_cons, differs, h, ih]

theorem lookup_eq_none_iff {members : Members α} {name : String}
    : members.lookup name = none ↔ name ∉ members.names := by
  rw [← isSome_lookup_iff, Option.not_isSome_iff_eq_none]

/-- Values that change under their names are found changed. -/
theorem lookup_map_values (f : String → α → β) (members : Members α) (name : String)
    : (members.map fun entry => (entry.1, f entry.1 entry.2)).lookup name
      = (members.lookup name).map (f name) := by
  induction members with
  | nil => rfl
  | cons entry rest ih =>
      obtain ⟨key, value⟩ := entry
      by_cases h : name = key
      · subst h
        simp
      · have differs : (name == key) = false := by simpa using h
        simpa [List.lookup_cons, differs] using ih

/-- Entries put behind others stay behind them in order, if no name repeats. -/
theorem foldl_put {kept members : Members α} (distinct : (kept ++ members).names.Nodup)
    : members.foldl (fun kept entry => kept.put entry.1 entry.2) kept = kept ++ members := by
  induction members generalizing kept with
  | nil => simp
  | cons entry rest ih =>
      have fresh : entry.1 ∉ kept.names := by
        rw [names_append, List.nodup_append] at distinct
        exact fun member => distinct.2.2 _ member _ List.mem_cons_self rfl
      rw [List.foldl_cons, put_of_not_mem entry.2 fresh, ih]
      · exact List.append_assoc kept [entry] rest
      · rwa [List.append_assoc]

/-- Putting entries one after another replaces nothing, if no name repeats. -/
theorem collapse_eq_self {members : Members α} (distinct : members.names.Nodup)
    : members.collapse = members :=
  foldl_put distinct

/-- A put under a taken name replaces the value behind it and leaves the other entries. -/
theorem put_append_cons {before : Members α} {name : String} (fresh : name ∉ before.names)
    (old value : α) (after : Members α)
    : (before ++ (name, old) :: after).put name value = before ++ (name, value) :: after := by
  induction before with
  | nil => simp [put]
  | cons entry rest ih =>
      obtain ⟨key, kept⟩ := entry
      simp only [names_cons, List.mem_cons, not_or] at fresh
      simp [put, Ne.symm fresh.1, ih fresh.2]

theorem collapse_append_singleton (members : Members α) (last : String × α)
    : collapse (members ++ [last]) = members.collapse.put last.1 last.2 := by
  simp [collapse]

/-- Entries put one after another repeat no name, by induction from the last on. -/
theorem nodup_names_collapse (members : Members α) : members.collapse.names.Nodup := by
  induction members using List.reverseRecOn with
  | nil => exact List.nodup_nil
  | append_singleton members last ih =>
      rw [collapse_append_singleton]
      exact nodup_names_put last.1 last.2 ih

/-- Entries put one after another are all from the list, by induction from the last on. -/
theorem collapse_subset (members : Members α) : members.collapse ⊆ members := by
  induction members using List.reverseRecOn with
  | nil => exact List.nil_subset _
  | append_singleton members last ih =>
      intro entry member
      rw [collapse_append_singleton] at member
      rcases mem_put member with earlier | rfl
      · exact List.mem_append_left _ (ih earlier)
      · exact List.mem_append_right _ List.mem_cons_self

/-- A put changes along with the values, by induction over the entries. -/
theorem map_put (f : α → β) (members : Members α) (name : String) (value : α)
    : (members.put name value).map (fun entry => (entry.1, f entry.2))
      = put (members.map fun entry => (entry.1, f entry.2)) name (f value) := by
  induction members with
  | nil => rfl
  | cons entry rest ih =>
      obtain ⟨key, old⟩ := entry
      by_cases h : key = name <;> simp [put, h, ih]

/-- Collapsing leaves room for the values to change before it or after it. -/
theorem map_collapse (f : α → β) (members : Members α)
    : members.collapse.map (fun entry => (entry.1, f entry.2))
      = collapse (members.map fun entry => (entry.1, f entry.2)) := by
  induction members using List.reverseRecOn with
  | nil => rfl
  | append_singleton members last ih =>
      rw [List.map_append, List.map_singleton, collapse_append_singleton,
        collapse_append_singleton, map_put, ih]

/-- The entries whose value is picked, with what is picked of it. -/
def select (pick : α → Option β) (members : Members α) : Members β :=
  members.filterMap fun entry => (pick entry.2).map (entry.1, ·)

@[simp]
theorem select_nil (pick : α → Option β) : select pick [] = [] := rfl

theorem select_cons (pick : α → Option β) (entry : String × α) (rest : Members α)
    : select pick (entry :: rest)
      = ((pick entry.2).map (entry.1, ·)).toList ++ select pick rest := by
  cases h : pick entry.2 <;> simp [select, h]

theorem mem_select {pick : α → Option β} {members : Members α} {name : String} {picked : β}
    : (name, picked) ∈ select pick members
      ↔ ∃ value, (name, value) ∈ members ∧ pick value = some picked := by
  simp only [select, List.mem_filterMap, Option.map_eq_some_iff, Prod.mk.injEq]
  constructor
  · intro selected
    obtain ⟨⟨key, value⟩, member, _, found, rfl, rfl⟩ := selected
    exact ⟨value, member, found⟩
  · intro declared
    obtain ⟨value, member, found⟩ := declared
    exact ⟨(name, value), member, picked, found, rfl, rfl⟩

/-- Picking leaves the order of the names. -/
theorem names_select_sublist (pick : α → Option β) (members : Members α)
    : (names (select pick members)).Sublist members.names := by
  induction members with
  | nil => simp
  | cons entry rest ih =>
      rw [select_cons, names_append, names_cons]
      cases pick entry.2 with
      | none => exact ih.cons entry.1
      | some picked => exact ih.cons_cons entry.1

/-- Two ways of picking from the same values pick the same names. -/
theorem names_select_congr {γ : Type w} {pick : α → Option β} {other : α → Option γ}
    {members : Members α}
    (same : ∀ entry ∈ members, (pick entry.2).isSome = (other entry.2).isSome)
    : names (select pick members) = names (select other members) := by
  induction members with
  | nil => rfl
  | cons entry rest ih =>
      obtain ⟨first, later⟩ := List.forall_mem_cons.mp same
      rw [select_cons, select_cons, names_append, names_append, ih later]
      cases picked : pick entry.2 <;> cases found : other entry.2 <;> simp_all

end Members

namespace OrderedMap

variable {α : Type u}

/-- A value inserted under a free name comes last. -/
theorem entries_insert_of_not_mem {map : OrderedMap α} {name : String} (value : α)
    (h : name ∉ map.names)
    : (map.insert name value).entries = map.entries ++ [(name, value)] :=
  Members.put_of_not_mem value h

/-- An insertion adds its name and no other. -/
theorem mem_names_insert {map : OrderedMap α} {name other : String} {value : α}
    : other ∈ (map.insert name value).names ↔ other ∈ map.names ∨ other = name := by
  unfold names
  rw [entries_insert, Members.names_put]
  split
  · rename_i taken
    exact ⟨Or.inl, fun h => h.elim id (· ▸ taken)⟩
  · simp

end OrderedMap

end EntityViews
