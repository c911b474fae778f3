/-! Named entries that remember the order in which their names first appeared.
Putting a value under a name that is taken replaces the value and keeps its place.
-/

namespace EntityViews

/-- Entries of a map, first name first; a name may be repeated. -/
abbrev Members (α : Type u) := List (String × α)

namespace Members

variable {α : Type u}

/-- The names of the entries, in order. -/
def names (members : Members α) : List String :=
  members.map Prod.fst

/-- Replaces the value of the first entry called `name`, or appends a new entry. -/
def put : Members α → String → α → Members α
  | [], name, value => [(name, value)]
  | (key, old) :: rest, name, value =>
      if key = name then (key, value) :: rest else (key, old) :: put rest name value

/-- Puts the entries one after another, so that a repeated name keeps its first place and
its last value.
-/
def collapse (members : Members α) : Members α :=
  members.foldl (fun kept entry => kept.put entry.1 entry.2) []

@[simp]
theorem names_nil : names ([] : Members α) = [] := rfl

@[simp]
theorem names_cons (entry : String × α) (rest : Members α)
    : names (entry :: rest) = entry.1 :: names rest := rfl

/-- A put leaves the names alone if the name is taken and appends it otherwise. -/
theorem names_put (members : Members α) (name : String) (value : α)
    : (members.put name value).names
      = if name ∈ members.names then members.names else members.names ++ [name] := by
  induction members with
  | nil => simp [put]
  | cons entry rest ih =>
      obtain ⟨key, old⟩ := entry
      by_cases h : key = name
      · simp [put, h]
      · have hne : name ≠ key := fun e => h e.symm
        simp only [put, if_neg h, names_cons, ih, List.mem_cons, hne, false_or]
        split <;> simp

/-- A put under a free name appends the entry. -/
theorem put_of_not_mem {members : Members α} {name : String} (value : α)
    (h : name ∉ members.names)
    : members.put name value = members ++ [(name, value)] := by
  induction members with
  | nil => rfl
  | cons entry rest ih =>
      obtain ⟨key, old⟩ := entry
      simp only [names_cons, List.mem_cons, not_or] at h
      simp [put, Ne.symm h.1, ih h.2]

/-- A put brings in no entry but its own, by induction over the entries. -/
theorem mem_put {members : Members α} {name : String} {value : α} {entry : String × α}
    (h : entry ∈ members.put name value)
    : entry ∈ members ∨ entry = (name, value) := by
  induction members with
  | nil => exact Or.inr (List.mem_singleton.mp h)
  | cons first rest ih =>
      obtain ⟨key, old⟩ := first
      unfold put at h
      split at h
      · rename_i same
        rcases List.mem_cons.mp h with replaced | later
        · exact Or.inr (same ▸ replaced)
        · exact Or.inl (List.mem_cons_of_mem _ later)
      · rcases List.mem_cons.mp h with kept | later
        · exact Or.inl (kept ▸ List.mem_cons_self)
        · exact (ih later).imp_left (List.mem_cons_of_mem _)

/-- Distinct names stay distinct under a put. -/
theorem nodup_names_put {members : Members α} (name : String) (value : α)
    (h : members.names.Nodup)
    : (members.put name value).names.Nodup := by
  rw [names_put]
  split
  · exact h
  · rename_i hn
    refine List.nodup_append.mpr ⟨h, by simp, ?_⟩
    intro a ha b hb hab
    rw [List.mem_singleton] at hb
    exact hn (hb ▸ hab ▸ ha)

end Members

/-- A map from names to values in order of first appearance, each name once. -/
structure OrderedMap (α : Type u) where
  entries : Members α
  distinct : entries.names.Nodup

namespace OrderedMap

variable {α : Type u} {β : Type v}

def empty : OrderedMap α :=
  ⟨[], by simp⟩

instance : Inhabited (OrderedMap α) := ⟨empty⟩

instance : EmptyCollection (OrderedMap α) := ⟨empty⟩

/-- Two maps are equal when they hold the same entries in the same order. -/
instance [BEq α] : BEq (OrderedMap α) := ⟨fun left right => left.entries == right.entries⟩

/-- The names of the map, in order. -/
def names (map : OrderedMap α) : List String :=
  map.entries.names

/-- The values of the map, in order. -/
def values (map : OrderedMap α) : List α :=
  map.entries.map Prod.snd

def size (map : OrderedMap α) : Nat :=
  map.entries.length

def isEmpty (map : OrderedMap α) : Bool :=
  map.entries.isEmpty

def get? (map : OrderedMap α) (name : String) : Option α :=
  map.entries.lookup name

def contains (map : OrderedMap α) (name : String) : Bool :=
  (map.get? name).isSome

/-- Puts a value under a name: a taken name keeps its place, a free one comes last. -/
def insert (map : OrderedMap α) (name : String) (value : α) : OrderedMap α :=
  ⟨map.entries.put name value, Members.nodup_names_put name value map.distinct⟩

def ofList (entries : List (String × α)) : OrderedMap α :=
  entries.foldl (fun map entry => map.insert entry.1 entry.2) empty

@[ext]
theorem ext {left right : OrderedMap α} (h : left.entries = right.entries) : left = right := by
  cases left
  cases right
  simpa using h

@[simp]
theorem entries_empty : (empty : OrderedMap α).entries = [] := rfl

@[simp]
theorem entries_insert (map : OrderedMap α) (name : String) (value : α)
    : (map.insert name value).entries = map.entries.put name value := rfl

end OrderedMap

end EntityViews
