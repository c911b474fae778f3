import EntityViews.Json.Printer
import EntityViews.Proofs.Json.Written
import Mathlib.Algebra.Order.BigOperators.Group.List
import Mathlib.Algebra.Order.Ring.Nat
import Mathlib.Data.List.Nodup

/-! Values with their repeated names collapsed.
Where an object repeats a name, the later value takes the place of the first. Whatever repeats a
name gets a shorter text, so the text alone tells whether there was anything to collapse.
-/

namespace EntityViews

/-- Where nothing grows and the sum stays, everything stays. -/
theorem List.eq_of_sum_map_eq {α : Type u} {entries : List α} {f g : α → Nat}
    (le : ∀ entry ∈ entries, f entry ≤ g entry) (h : (entries.map f).sum = (entries.map g).sum)
    : ∀ entry ∈ entries, f entry = g entry := by
  intro entry member
  by_contra differs
  have less : f entry < g entry := Nat.lt_of_le_of_ne (le entry member) differs
  have sums := List.sum_lt_sum f g le ⟨entry, member, less⟩
  omega

namespace Members

variable {α : Type u} {members : Members α} {name other : String} {value : α}

theorem lookup_cons_eq (entry : String × α) (rest : Members α)
    : List.lookup name (entry :: rest)
      = if name = entry.1 then some entry.2 else rest.lookup name := by
  rw [List.lookup_cons]
  by_cases same : name = entry.1
  · rw [if_pos same, beq_iff_eq.mpr same]
  · rw [if_neg same, beq_eq_false_iff_ne.mpr same]

/-- A name that has been put has the value that was put, and other names keep theirs. -/
theorem lookup_put
    : (members.put name value).lookup other
      = if other = name then some value else members.lookup other := by
  induction members with
  | nil => rw [put, lookup_cons_eq]
  | cons entry rest ih =>
      obtain ⟨key, old⟩ := entry
      unfold put
      split
      · rename_i taken
        rw [lookup_cons_eq, lookup_cons_eq, ← taken]
        split <;> rfl
      · rename_i free
        rw [lookup_cons_eq, lookup_cons_eq, ih]
        split
        · rename_i first
          rw [if_neg (first ▸ free)]
        · rfl

/-- Members that are collapsed keep the first place and the last value of each name. -/
structure KeepsLast (members kept : Members α) : Prop where
  names : kept.names = members.names.eraseDups
  values : ∀ name, kept.lookup name = members.reverse.lookup name

/-- Collapsing keeps first places and last values, by induction from the last entry on. -/
theorem keepsLast_collapse (members : Members α) : KeepsLast members members.collapse := by
  induction members using List.reverseRecOn with
  | nil => exact ⟨rfl, fun _ => rfl⟩
  | append_singleton members last ih =>
      rw [collapse_append_singleton]
      refine ⟨?names, fun name => ?_⟩
      case names =>
        rw [names_put, ih.names, names_append, List.eraseDups_append]
        simp only [List.mem_eraseDups]
        split
        · rename_i taken
          simp [List.removeAll, taken]
        · rename_i free
          simp [List.removeAll, free, List.eraseDups_cons]
      · rw [lookup_put, ih.values, List.reverse_append, List.reverse_singleton,
          List.singleton_append, lookup_cons_eq]

/-- The sum of the weights of the entries. -/
def weight (weigh : String × α → Nat) (members : Members α) : Nat :=
  (members.map weigh).sum

variable {weigh : String × α → Nat}

/-- A put weighs no more than another entry, and less if it replaces one. -/
theorem weight_put (positive : ∀ entry, 0 < weigh entry)
    : weight weigh (members.put name value) ≤ weight weigh members + weigh (name, value)
      ∧ (name ∈ members.names
        → weight weigh (members.put name value)
          < weight weigh members + weigh (name, value)) := by
  induction members with
  | nil => simp [put, weight]
  | cons entry rest ih =>
      obtain ⟨key, old⟩ := entry
      obtain ⟨bounded, lighter⟩ := ih
      unfold put
      split
      · rename_i taken
        subst taken
        have replaced := positive (key, old)
        simp only [weight, List.map_cons, List.sum_cons]
        omega
      · rename_i free
        simp only [weight, List.map_cons, List.sum_cons] at bounded lighter ⊢
        refine ⟨by omega, fun named => ?_⟩
        have later : name ∈ Members.names rest :=
          (List.mem_cons.mp named).resolve_left (Ne.symm free)
        have less := lighter later
        omega

/-- Collapsing makes nothing heavier, and everything lighter that repeats a name. -/
theorem weight_collapse (positive : ∀ entry, 0 < weigh entry) (members : Members α)
    : weight weigh members.collapse ≤ weight weigh members
      ∧ (weight weigh members.collapse = weight weigh members → members.names.Nodup) := by
  induction members using List.reverseRecOn with
  | nil => exact ⟨Nat.le_refl _, fun _ => List.nodup_nil⟩
  | append_singleton members last ih =>
      obtain ⟨name, value⟩ := last
      obtain ⟨bounded, distinct⟩ := ih
      obtain ⟨putBounded, lighter⟩ := @weight_put _ (collapse members) name value weigh positive
      have total : weight weigh (members ++ [(name, value)])
            = weight weigh members + weigh (name, value) := by
        simp [weight]
      rw [collapse_append_singleton, total]
      dsimp only
      refine ⟨by omega, fun same => ?_⟩
      have kept : collapse members = members := collapse_eq_self (distinct (by omega))
      have free : name ∉ names members := by
        intro taken
        have less := lighter (by rwa [kept])
        omega
      rw [names_append]
      exact List.Nodup.append (distinct (by rw [kept])) (List.nodup_singleton _)
        (List.disjoint_singleton.mpr free)

end Members

namespace Json

/-- What holds of a value if it holds of all that is directly inside holds of all values. -/
@[elab_as_elim]
theorem induct {P : Json → Prop} (null : P .null) (boolean : ∀ value, P (.boolean value))
    (number : ∀ value, P (.number value)) (string : ∀ value, P (.string value))
    (array : ∀ items, (∀ item ∈ items, P item) → P (.array items))
    (object : ∀ members, (∀ member ∈ members, P member.2) → P (.object members))
    (value : Json)
    : P value :=
  @Json.rec P (fun items => ∀ item ∈ items, P item)
    (fun members => ∀ member ∈ members, P member.2) (fun member => P member.2)
    null boolean number string array object
    (by simp) (fun _ _ first others => List.forall_mem_cons.mpr ⟨first, others⟩)
    (by simp) (fun _ _ first others => List.forall_mem_cons.mpr ⟨first, others⟩)
    (fun _ _ h => h) value

mutual

/-- The value with repeated names collapsed in all its objects. -/
def collapsed : Json → Json
  | .null => .null
  | .boolean value => .boolean value
  | .number value => .number value
  | .string value => .string value
  | .array items => .array (collapsedItems items)
  | .object members => .object (Members.collapse (collapsedMembers members))

def collapsedItems : List Json → List Json
  | [] => []
  | item :: rest => item.collapsed :: collapsedItems rest

def collapsedMembers : List (String × Json) → List (String × Json)
  | [] => []
  | (name, value) :: rest => (name, value.collapsed) :: collapsedMembers rest

end

theorem collapsedItems_eq_map (items : List Json)
    : collapsedItems items = items.map collapsed := by
  induction items with
  | nil => rfl
  | cons item rest ih => rw [collapsedItems, ih, List.map_cons]

theorem collapsedMembers_eq_map (members : Members Json)
    : collapsedMembers members = members.map fun entry => (entry.1, entry.2.collapsed) := by
  induction members with
  | nil => rfl
  | cons entry rest ih => rw [collapsedMembers, ih, List.map_cons]

/-- A value that repeats no name is collapsed already. -/
theorem collapsed_of_distinct {value : Json} (h : value.Distinct)
    : value.collapsed = value := by
  induction h with
  | null | boolean | number | string => rfl
  | @array items each ih =>
      rw [collapsed, collapsedItems_eq_map]
      exact congrArg array ((List.map_congr_left ih).trans (List.map_id items))
  | @object members names each ih =>
      have same : collapsedMembers members = members := by
        rw [collapsedMembers_eq_map]
        refine (List.map_congr_left fun entry member => ?_).trans (List.map_id members)
        rw [ih entry member]
        rfl
      rw [collapsed, same, Members.collapse_eq_self names]

/-- No object of a collapsed value repeats a name. -/
theorem distinct_collapsed (value : Json) : value.collapsed.Distinct := by
  induction value using induct with
  | null => exact .null
  | boolean value => exact .boolean value
  | number value => exact .number value
  | string value => exact .string value
  | array items ih =>
      rw [collapsed, collapsedItems_eq_map]
      exact .array (List.forall_mem_map.mpr ih)
  | object members ih =>
      rw [collapsed, collapsedMembers_eq_map]
      refine .object (Members.nodup_names_collapse _) fun entry member => ?_
      obtain ⟨source, known, rfl⟩ := List.mem_map.mp (Members.collapse_subset _ member)
      exact ih source known

/-- Texts between commas are as long as they are together with a comma each, less one comma. -/
theorem length_intercalate_comma (texts : List String)
    : (",".intercalate texts).length = (texts.map fun text => text.length + 1).sum - 1 := by
  induction texts with
  | nil => rfl
  | cons text rest ih =>
      cases rest with
      | nil => simp
      | cons next rest =>
          rw [String.intercalate_cons_cons, String.length_append, String.length_append, ih]
          simp only [List.map_cons, List.sum_cons]
          have comma : ",".length = 1 := rfl
          omega

theorem compactItems_eq_map (items : List Json) : compactItems items = items.map compact := by
  induction items with
  | nil => rfl
  | cons item rest ih => rw [compactItems, ih, List.map_cons]

theorem compactMembers_eq_map (members : Members Json)
    : compactMembers members
      = members.map fun entry => quote entry.1 ++ ":" ++ entry.2.compact := by
  induction members with
  | nil => rfl
  | cons entry rest ih => rw [compactMembers, ih, List.map_cons]

/-- The length of a member with the comma behind it. -/
def memberLength (entry : String × Json) : Nat :=
  (quote entry.1 ++ ":" ++ entry.2.compact).length + 1

theorem one_lt_memberLength (entry : String × Json) : 1 < memberLength entry := by
  have colon : ":".length = 1 := rfl
  rw [memberLength, String.length_append, String.length_append]
  omega

theorem length_compact_array (items : List Json)
    : (array items).compact.length
      = (items.map fun item => item.compact.length + 1).sum - 1 + 2 := by
  have brackets : "[".length = 1 ∧ "]".length = 1 := ⟨rfl, rfl⟩
  rw [compact, String.length_append, String.length_append, length_intercalate_comma,
    compactItems_eq_map, List.map_map, Function.comp_def]
  omega

theorem length_compact_object (members : Members Json)
    : (object members).compact.length = Members.weight memberLength members - 1 + 2 := by
  have braces : "\x7b".length = 1 ∧ "\x7d".length = 1 := ⟨rfl, rfl⟩
  rw [compact, String.length_append, String.length_append, length_intercalate_comma,
    compactMembers_eq_map, List.map_map, Members.weight]
  change 1 + ((members.map memberLength).sum - 1) + 1 = _
  omega

/-- Members weigh nothing only if there are none. -/
theorem weight_memberLength_cases (members : Members Json)
    : Members.weight memberLength members = 0 ∨ 1 < Members.weight memberLength members := by
  cases members with
  | nil => exact .inl rfl
  | cons entry rest =>
      have first := one_lt_memberLength entry
      refine .inr ?_
      rw [Members.weight, List.map_cons, List.sum_cons]
      omega

/-- Collapsing the value makes its text no longer, and shorter if the value repeats a name. -/
def ShortensRepeats (value : Json) : Prop :=
  value.collapsed.compact.length ≤ value.compact.length
    ∧ (value.collapsed.compact.length = value.compact.length → value.Distinct)

theorem shortensRepeats_array {items : List Json} (h : ∀ item ∈ items, item.ShortensRepeats)
    : (array items).ShortensRepeats := by
  have each
      : ∀ item ∈ items, item.collapsed.compact.length + 1 ≤ item.compact.length + 1 :=
    fun item member => Nat.succ_le_succ (h item member).1
  have total := List.sum_le_sum each
  rw [ShortensRepeats, collapsed, collapsedItems_eq_map, length_compact_array,
    length_compact_array, List.map_map, Function.comp_def]
  refine ⟨by omega, fun same => .array fun item member => ?_⟩
  have counted : item.collapsed.compact.length + 1
      ≤ (items.map fun item => item.collapsed.compact.length + 1).sum :=
    List.le_sum_of_mem (List.mem_map_of_mem member)
  have equal := List.eq_of_sum_map_eq each (by omega) item member
  exact (h item member).2 (Nat.succ.inj equal)

/-- Of members, collapsing may shorten the values and leave out what is repeated. -/
theorem shortensRepeats_object {members : Members Json}
    (h : ∀ entry ∈ members, entry.2.ShortensRepeats)
    : (object members).ShortensRepeats := by
  have each
      : ∀ entry ∈ members,
          memberLength (entry.1, entry.2.collapsed) ≤ memberLength entry := by
    intro entry member
    have shorter := (h entry member).1
    simp only [memberLength, String.length_append]
    omega
  have total
      : Members.weight memberLength (collapsedMembers members)
        ≤ Members.weight memberLength members := by
    rw [collapsedMembers_eq_map, Members.weight, List.map_map]
    exact List.sum_le_sum each
  obtain ⟨collapses, distinct⟩ :=
    Members.weight_collapse (fun entry => Nat.lt_of_succ_lt (one_lt_memberLength entry))
      (collapsedMembers members)
  have before := weight_memberLength_cases members
  have after := weight_memberLength_cases (Members.collapse (collapsedMembers members))
  rw [ShortensRepeats, collapsed, length_compact_object, length_compact_object]
  refine ⟨by omega, fun same => .object ?_ fun entry member => ?_⟩
  · have names := distinct (by omega)
    rwa [collapsedMembers_eq_map, Members.names_map_values] at names
  · have sums
        : (members.map fun entry => memberLength (entry.1, entry.2.collapsed)).sum
          = (members.map memberLength).sum := by
      have equal
          : Members.weight memberLength (collapsedMembers members)
            = Members.weight memberLength members := by omega
      rwa [collapsedMembers_eq_map, Members.weight, List.map_map] at equal
    have equal := List.eq_of_sum_map_eq each sums entry member
    simp only [memberLength, String.length_append] at equal
    exact (h entry member).2 (by omega)

theorem shortensRepeats (value : Json) : value.ShortensRepeats := by
  induction value using induct with
  | null => exact ⟨Nat.le_refl _, fun _ => .null⟩
  | boolean value => exact ⟨Nat.le_refl _, fun _ => .boolean value⟩
  | number value => exact ⟨Nat.le_refl _, fun _ => .number value⟩
  | string value => exact ⟨Nat.le_refl _, fun _ => .string value⟩
  | array items ih => exact shortensRepeats_array ih
  | object members ih => exact shortensRepeats_object ih

/-- Collapsing a value shows in its text exactly if the value repeats a name. -/
theorem compact_collapsed_eq_iff {value : Json}
    : value.collapsed.compact = value.compact ↔ value.Distinct := by
  constructor
  · intro same
    exact (shortensRepeats value).2 (congrArg String.length same)
  · intro distinct
    rw [collapsed_of_distinct distinct]

end Json

end EntityViews
