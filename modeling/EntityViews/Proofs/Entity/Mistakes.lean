import EntityViews.Entity.Normalize
import EntityViews.Proofs.FirstRefusal
import EntityViews.Proofs.NamedEntries

/-! Fields that cannot be compiled.
A field is mistaken for a reason of its own, whatever stands before it, and of several mistaken
fields the first is reported.
-/

namespace EntityViews

/-- A field cannot be compiled, and this is what is reported of it. A field that has the name of
the primary column is a second primary column whatever it declares.
-/
inductive Mistaken (model : String) : String → Declaration → SchemaError → Prop where
  | primaryName (declaration : Declaration)
    : Mistaken model primaryColumn declaration (.multiplePrimaryKeys model primaryColumn)
  | primary {field : String} {column : Column} (h : column.primary = true)
    : Mistaken model field (.column column) (.multiplePrimaryKeys model field)
  | bare {field : String} (ordinary : field ≠ primaryColumn) (kind : RelationKind)
    : Mistaken model field (.relationTag kind) (.inlineRelation model field)
  | unresolved {field : String} {relation : Relation} {value : Json}
    (ordinary : field ≠ primaryColumn) (h : relation.target = .reference value)
    : Mistaken model field (.relation relation) (.unsupportedTarget model field)

/-- The problem is that of the first mistaken field, in order of declaration. -/
def FirstMistake (model : String) (fields : Members Declaration) (problem : SchemaError)
    : Prop :=
  ∃ before field declaration after,
    fields = before ++ (field, declaration) :: after
    ∧ (∀ entry ∈ before, ∀ other, ¬ Mistaken model entry.1 entry.2 other)
    ∧ Mistaken model field declaration problem

/-- The fields leave the primary column alone, and their relations lead to names. -/
structure Acceptable (fields : Members Declaration) : Prop where
  ordinary : primaryColumn ∉ fields.names
  columns : ∀ name column, (name, .column column) ∈ fields → column.primary = false
  declared : ∀ name kind, (name, .relationTag kind) ∉ fields
  targets
    : ∀ name relation,
        (name, .relation relation) ∈ fields → ∃ target, relation.target = .name target

variable {model field : String} {declaration : Declaration} {definition : EntityDefinition}
  {problem : SchemaError} {fields : Members Declaration}

/-- A field is refused exactly for its mistake, whatever the definition holds by then. -/
theorem EntityDefinition.addField_eq_error_iff
    : definition.addField model field declaration = .error problem
      ↔ Mistaken model field declaration problem := by
  constructor
  · intro refused
    unfold addField at refused
    split at refused
    · rename_i same
      obtain rfl := Except.error.inj refused
      exact same ▸ .primaryName declaration
    · rename_i ordinary
      cases declaration with
      | scalar type => contradiction
      | column column =>
          cases primary : column.primary with
          | false => simp [primary] at refused
          | true =>
              simp only [primary, if_true, Except.error.injEq] at refused
              exact refused ▸ .primary primary
      | relationTag kind => exact Except.error.inj refused ▸ .bare ordinary kind
      | relation relation =>
          cases target : relation.target with
          | name target => simp [RelationDescriptor.ofRelation, target] at refused
          | reference value =>
              simp only [RelationDescriptor.ofRelation, target, Except.error_bind,
                Except.error.injEq] at refused
              exact refused ▸ .unresolved ordinary target
  · intro mistaken
    unfold addField
    cases mistaken with
    | primaryName declaration => rw [if_pos rfl]
    | primary h => split <;> simp [h]
    | bare ordinary kind => rw [if_neg ordinary]
    | unresolved ordinary h => simp [ordinary, RelationDescriptor.ofRelation, h]

/-- A field enters every definition exactly if it has no mistake. -/
theorem EntityDefinition.exists_addField_iff
    : (∃ extended, definition.addField model field declaration = .ok extended)
      ↔ ∀ problem, ¬ Mistaken model field declaration problem := by
  rw [Except.exists_ok_iff]
  exact forall_congr' fun problem => not_congr addField_eq_error_iff

/-- Fields are refused exactly for the first mistake among them, by induction over the fields:
a field that enters the definition has no mistake, and what it adds makes none.
-/
theorem EntityDefinition.foldlM_addField_eq_error_iff
    : fields.foldlM (fun definition entry => definition.addField model entry.1 entry.2)
          definition
        = .error problem
      ↔ FirstMistake model fields problem := by
  induction fields generalizing definition with
  | nil => simp [FirstMistake]
  | cons entry rest ih =>
      rw [List.foldlM_cons, Except.bind_eq_error_iff, addField_eq_error_iff]
      simp only [ih]
      constructor
      · intro refused
        rcases refused with mistaken | ⟨extended, enters, later⟩
        · exact ⟨[], entry.1, entry.2, rest, rfl, by simp, mistaken⟩
        · obtain ⟨before, field, declaration, after, rfl, earlier, mistaken⟩ := later
          refine ⟨entry :: before, field, declaration, after, rfl, ?_, mistaken⟩
          exact List.forall_mem_cons.mpr
            ⟨exists_addField_iff.mp ⟨extended, enters⟩, earlier⟩
      · intro first
        obtain ⟨before, field, declaration, after, split, earlier, mistaken⟩ := first
        cases before with
        | nil =>
            obtain ⟨rfl, rfl⟩ := List.cons.inj split
            exact Or.inl mistaken
        | cons first before =>
            obtain ⟨rfl, rfl⟩ := List.cons.inj split
            obtain ⟨free, others⟩ := List.forall_mem_cons.mp earlier
            obtain ⟨extended, enters⟩ := exists_addField_iff.mpr free
            exact Or.inr ⟨extended, enters, before, field, declaration, after, rfl, others,
              mistaken⟩

/-- Some field has a first mistake exactly if some field has a mistake at all. -/
theorem exists_firstMistake_iff
    : (∃ problem, FirstMistake model fields problem)
      ↔ ∃ entry ∈ fields, ∃ problem, Mistaken model entry.1 entry.2 problem := by
  constructor
  · intro first
    obtain ⟨problem, before, field, declaration, after, rfl, _, mistaken⟩ := first
    exact ⟨(field, declaration), by simp, problem, mistaken⟩
  · intro some
    induction fields with
    | nil => simp at some
    | cons entry rest ih =>
        by_cases free : ∃ problem, Mistaken model entry.1 entry.2 problem
        · obtain ⟨problem, mistaken⟩ := free
          exact ⟨problem, [], entry.1, entry.2, rest, rfl, by simp, mistaken⟩
        · obtain ⟨other, member, mistaken⟩ := some
          rcases List.mem_cons.mp member with rfl | later
          · exact absurd mistaken free
          · obtain ⟨problem, before, field, declaration, after, rfl, earlier, mistaken⟩ :=
              ih ⟨other, later, mistaken⟩
            refine ⟨problem, entry :: before, field, declaration, after, rfl, ?_, mistaken⟩
            exact List.forall_mem_cons.mpr ⟨not_exists.mp free, earlier⟩

/-- Fields are acceptable exactly if none of them has a mistake. -/
theorem acceptable_iff (model : String)
    : Acceptable fields
      ↔ ∀ entry ∈ fields, ∀ problem, ¬ Mistaken model entry.1 entry.2 problem := by
  constructor
  · intro acceptable entry member problem mistaken
    obtain ⟨field, declaration⟩ := entry
    cases mistaken with
    | primaryName declaration =>
        exact acceptable.ordinary (Members.mem_names.mpr ⟨declaration, member⟩)
    | primary h => simp [acceptable.columns _ _ member] at h
    | bare ordinary kind => exact acceptable.declared _ _ member
    | unresolved ordinary h =>
        obtain ⟨target, named⟩ := acceptable.targets _ _ member
        simp [named] at h
  · intro free
    have ordinary : primaryColumn ∉ fields.names := by
      intro member
      obtain ⟨declaration, declared⟩ := Members.mem_names.mp member
      exact free _ declared _ (.primaryName declaration)
    have other {name : String} {declaration : Declaration}
        (member : (name, declaration) ∈ fields)
        : name ≠ primaryColumn := by
      rintro rfl
      exact ordinary (Members.mem_names.mpr ⟨declaration, member⟩)
    refine ⟨ordinary, ?columns, ?declared, ?targets⟩
    case columns =>
      intro name column member
      exact Bool.eq_false_iff.mpr fun primary => free _ member _ (.primary primary)
    case declared =>
      intro name kind member
      exact free _ member _ (.bare (other member) kind)
    case targets =>
      intro name relation member
      cases target : relation.target with
      | name model => exact ⟨model, rfl⟩
      | reference value => exact absurd (.unresolved (other member) target) (free _ member _)

end EntityViews
