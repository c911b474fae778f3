import EntityViews.Proofs.Declaration.Grammar
import EntityViews.Proofs.Entity.Exactness
import EntityViews.View.Expansion

/-! What the words of a declaration mean to entities and views.
They tell how a column is stored, whether a relation leads to many records and which views follow
it.
-/

namespace EntityViews

open Json (Chooses)

/-- Texts, words out of a list, and files with all else that is kept as JSON have storage types of
other names. Every other column is stored under the name of its own type.
-/
theorem StorageType.name_ofLogical (type : LogicalType)
    : (ofLogical type).name
      = if type = .string then "varchar"
        else if type = .enumeration then "simple-enum"
        else if type = .json ∨ type = .file then "simple-json"
        else type.name := by
  cases type <;> rfl

/-- A relation leads to many exactly if its kind is spelled so. -/
theorem RelationKind.isToMany_iff {word : String} {kind : RelationKind}
    (spelled : parse? word = some kind)
    : kind.isToMany = true
      ↔ canonical word = "one-to-many" ∨ canonical word = "many-to-many" := by
  have named : kind.name = canonical word := by simpa using List.find?_some spelled
  rw [← named]
  cases kind <;> decide

/-- A value chooses the word of one operation only. -/
theorem Operation.eq_of_chooses {value : Json} {operation other : Operation}
    (chooses : Chooses value operation.name) (also : Chooses value other.name)
    : operation = other := by
  rw [← Json.bind_choice?_eq_some_iff parse?_eq_some_iff] at chooses also
  exact Option.some.inj (chooses.symm.trans also)

/-- A cascade includes an operation exactly if it is written as `true` or as a list with the word
of the operation.
-/
theorem Cascade.includes_iff {value : Json} {cascade : Cascade}
    (written : cascade.WrittenAs Chooses value) {operation : Operation}
    : cascade.includes operation = true
      ↔ value = .boolean true
        ∨ ∃ items, value = .array items ∧ ∃ item ∈ items, Chooses item operation.name := by
  cases written with
  | every all => simp [includes]
  | @only items operations each =>
      simp only [includes, List.contains_iff_mem, reduceCtorEq, Json.array.injEq,
        exists_eq_left', false_or]
      constructor
      · intro listed
        exact List.exists_mem_of_forall₂ each.flip listed
      · intro found
        obtain ⟨item, member, chooses⟩ := found
        obtain ⟨other, listed, also⟩ := List.exists_mem_of_forall₂ each member
        exact Operation.eq_of_chooses chooses also ▸ listed

/-- The members of a declared relation spread an operation: their cascade is `true` or lists the
word of the operation.
-/
def Spreads (members : Members Json) (operation : Operation) : Prop :=
  members.lookup "cascade" = some (.boolean true)
    ∨ ∃ items,
        members.lookup "cascade" = some (.array items)
        ∧ ∃ item ∈ items, Chooses item operation.name

/-- The members of a declared relation ask a view to follow it: they spread the operation that the
view is for, or ask for the relation whenever a record is read.
-/
def ViewKind.AskedToFollow (members : Members Json) : ViewKind → Prop
  | .create => Spreads members .insert
  | .update => Spreads members .update
  | .full => members.lookup "eager" = some (.boolean true)

section Relations

variable {members : Members Json} {declared : Relation}

theorem Relation.DeclaredBy.includes_iff (h : declared.DeclaredBy Chooses members)
    {operation : Operation}
    : declared.cascade.includes operation = true ↔ Spreads members operation := by
  have cascade : Json.Declared (Cascade.WrittenAs Chooses) (.every false)
      (members.lookup "cascade") declared.cascade :=
    h.2.2 _ (.tail _ (.head _))
  unfold Spreads
  generalize members.lookup "cascade" = value? at cascade ⊢
  generalize declared.cascade = spread at cascade ⊢
  cases cascade with
  | absent => simp [Cascade.includes]
  | given written => simpa using Cascade.includes_iff written

theorem Relation.DeclaredBy.eager_iff (h : declared.DeclaredBy Chooses members)
    : declared.eager = true ↔ members.lookup "eager" = some (.boolean true) := by
  have eager : Json.Declared Json.IsFlag false (members.lookup "eager") declared.eager :=
    h.2.2 _ (.tail _ (.tail _ (.head _)))
  generalize members.lookup "eager" = value? at eager ⊢
  generalize declared.eager = flag at eager ⊢
  cases eager with
  | absent => simp
  | @given value _ written =>
      obtain rfl : value = .boolean flag := written
      simp

/-- A view follows a compiled relation exactly if the members that declare it ask for it. -/
theorem ViewKind.follows_iff {relation : RelationDescriptor}
    (h : declared.DeclaredBy Chooses members) (carried : declared.CarriedBy relation)
    (kind : ViewKind)
    : kind.follows relation = true ↔ kind.AskedToFollow members := by
  cases kind with
  | create => rw [follows, carried.cascade, h.includes_iff, AskedToFollow]
  | update => rw [follows, carried.cascade, h.includes_iff, AskedToFollow]
  | full => rw [follows, carried.eager, h.eager_iff, AskedToFollow]

/-- Of the fields of a model that compiles, a view follows those whose members ask for it. -/
theorem Model.mem_names_followed_iff {model : Model} {definition : EntityDefinition}
    (compiles : model.definition = .ok definition) {name : String}
    (field : (name, .relation declared) ∈ model.fields.entries)
    (declares : (Json.object members).Declares Chooses (.relation declared)) (kind : ViewKind)
    : name ∈ Members.names (definition.followed kind) ↔ kind.AskedToFollow members := by
  have options : declared.DeclaredBy Chooses members := by
    cases declares with
    | relation typed spelled options => exact options
  have acceptable : Acceptable model.fields.entries :=
    exists_normalize_iff.mp ⟨definition, compiles⟩
  obtain ⟨relation, compiled, carried⟩ := acceptable.exists_relation?_eq field rfl
  rw [← kind.follows_iff options carried, Members.mem_names]
  simp only [EntityDefinition.followed, List.mem_filter, (definition_entries compiles).2.2,
    Members.mem_select]
  constructor
  · intro listed
    obtain ⟨other, ⟨declaration, member, also⟩, follows⟩ := listed
    obtain rfl := Members.value_unique model.fields.distinct field member
    exact Option.some.inj (compiled.symm.trans also) ▸ follows
  · intro follows
    exact ⟨relation, ⟨_, field, compiled⟩, follows⟩

end Relations

end EntityViews
