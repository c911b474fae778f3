import EntityViews.Model
import EntityViews.Proofs.Entity.Mistakes

/-! Compiled definitions, field by field.
A field that compiles gives one column or one relation under its own name, and nothing else
enters a definition but the primary column. So columns and relations keep the order of the
fields and share no name.
-/

namespace EntityViews

/-- The column that a declaration compiles to; a second primary one does not compile. -/
def Declaration.column? : Declaration → Option ColumnDescriptor
  | .scalar type => some (.ofLogical type)
  | .column declared => if declared.primary then none else some (.ofColumn declared)
  | .relationTag _ => none
  | .relation _ => none

/-- The relation that a declaration compiles to; its target has to be a name. -/
def Declaration.relation? : Declaration → Option RelationDescriptor
  | .relation declared =>
      match declared.target with
      | .name target =>
          some
            {
              kind := declared.kind,
              target,
              cascade := declared.cascade,
              eager := declared.eager,
              joinColumn := declared.joinColumn,
              joinTable := declared.joinTable,
              inverseSide? := declared.inverseSide?,
              nullable? := declared.nullable?,
              onDelete? := declared.onDelete?
            }
      | .reference _ => none
  | .scalar _ => none
  | .column _ => none
  | .relationTag _ => none

/-- No declaration compiles to a column and a relation. -/
theorem relation?_eq_none_of_column? {declaration : Declaration} {column : ColumnDescriptor}
    (h : declaration.column? = some column)
    : declaration.relation? = none := by
  cases declaration <;> simp_all [Declaration.column?, Declaration.relation?]

/-- No declaration compiles to a relation and a column. -/
theorem column?_eq_none_of_relation? {declaration : Declaration}
    {relation : RelationDescriptor} (h : declaration.relation? = some relation)
    : declaration.column? = none := by
  cases declaration <;> simp_all [Declaration.column?, Declaration.relation?]

namespace EntityDefinition

variable {model field : String} {declaration : Declaration}
  {definition extended : EntityDefinition}

/-- All that adding a field can do: it inserts a column or a relation under the name of the
field, which is not that of the primary column.
-/
theorem addField_cases (h : definition.addField model field declaration = .ok extended)
    : field ≠ primaryColumn
      ∧ ((∃ column,
            declaration.column? = some column
            ∧ extended = { definition with columns := definition.columns.insert field column })
        ∨ ∃ relation,
            declaration.relation? = some relation
            ∧ extended
              = { definition with relations := definition.relations.insert field relation }) := by
  unfold addField at h
  split at h
  · contradiction
  · rename_i ordinary
    refine ⟨ordinary, ?_⟩
    cases declaration with
    | scalar type => exact Or.inl ⟨_, rfl, (Except.ok.inj h).symm⟩
    | column column =>
        cases hp : column.primary with
        | true => simp [hp] at h
        | false =>
            simp only [hp, Bool.false_eq_true, if_false, Except.ok.injEq] at h
            exact Or.inl ⟨.ofColumn column, by simp [Declaration.column?, hp], h.symm⟩
    | relationTag kind => contradiction
    | relation relation =>
        cases ht : relation.target with
        | reference value => simp [RelationDescriptor.ofRelation, ht] at h
        | name target =>
            simp only [RelationDescriptor.ofRelation, ht, Except.ok_bind, Except.pure_eq_ok,
              Except.ok.injEq] at h
            exact Or.inr ⟨_, by simp [Declaration.relation?, ht], h.symm⟩

/-- Fields compile in order: their columns and relations come after those already there, by
induction over the fields. Of the names already there only that of the primary column may
come again, and then its field is refused.
-/
theorem foldlM_addField_entries {fields : Members Declaration} {compiled : EntityDefinition}
    (distinct : fields.names.Nodup)
    (fresh
      : ∀ name ∈ fields.names,
          name ∈ definition.columns.names ∨ name ∈ definition.relations.names
          → name = primaryColumn)
    (h
      : fields.foldlM (fun definition entry => definition.addField model entry.1 entry.2)
          definition
        = .ok compiled)
    : primaryColumn ∉ fields.names
      ∧ compiled.columns.entries
        = definition.columns.entries ++ fields.select Declaration.column?
      ∧ compiled.relations.entries
        = definition.relations.entries ++ fields.select Declaration.relation? := by
  induction fields generalizing definition with
  | nil =>
      obtain rfl := Except.ok.inj h
      simp
  | cons entry rest ih =>
      obtain ⟨field, declaration⟩ := entry
      rw [List.foldlM_cons, Except.bind_eq_ok_iff] at h
      obtain ⟨extended, first, later⟩ := h
      obtain ⟨unused, others⟩ : field ∉ Members.names rest ∧ (Members.names rest).Nodup :=
        List.nodup_cons.mp distinct
      obtain ⟨ordinary, added⟩ := addField_cases first
      have free : field ∉ definition.columns.names ∧ field ∉ definition.relations.names := by
        constructor <;> intro member
        · exact ordinary (fresh field List.mem_cons_self (Or.inl member))
        · exact ordinary (fresh field List.mem_cons_self (Or.inr member))
      have old {name : String} (member : name ∈ Members.names rest)
          : name ≠ field
            ∧ (name ∈ definition.columns.names ∨ name ∈ definition.relations.names
              → name = primaryColumn) :=
        ⟨fun same => unused (same ▸ member), fresh name (List.mem_cons_of_mem _ member)⟩
      rcases added with ⟨column, compiles, rfl⟩ | ⟨relation, compiles, rfl⟩
      · obtain ⟨absent, columns, relations⟩ := ih others
          (fun name member taken => by
            obtain ⟨differs, known⟩ := old member
            rw [OrderedMap.mem_names_insert] at taken
            exact known (taken.imp_left (·.resolve_right differs)))
          later
        rw [OrderedMap.entries_insert_of_not_mem column free.1] at columns
        refine ⟨?_, ?_, ?_⟩
        · simp [absent, Ne.symm ordinary]
        · simp [columns, Members.select_cons, compiles]
        · simp [relations, Members.select_cons, relation?_eq_none_of_column? compiles]
      · obtain ⟨absent, columns, relations⟩ := ih others
          (fun name member taken => by
            obtain ⟨differs, known⟩ := old member
            rw [OrderedMap.mem_names_insert] at taken
            exact known (taken.imp_right (·.resolve_right differs)))
          later
        rw [OrderedMap.entries_insert_of_not_mem relation free.2] at relations
        refine ⟨?_, ?_, ?_⟩
        · simp [absent, Ne.symm ordinary]
        · simp [columns, Members.select_cons, column?_eq_none_of_relation? compiles]
        · simp [relations, Members.select_cons, compiles]

end EntityDefinition

namespace Model

variable {model : Model} {definition : EntityDefinition}

/-- The definition of a model holds the primary column and what its fields compile to. -/
theorem definition_entries (h : model.definition = .ok definition)
    : primaryColumn ∉ model.fields.names
      ∧ definition.columns.entries
        = (primaryColumn, .primaryId) :: model.fields.entries.select Declaration.column?
      ∧ definition.relations.entries
        = model.fields.entries.select Declaration.relation? := by
  refine EntityDefinition.foldlM_addField_entries model.fields.distinct ?_ h
  intro name _ taken
  simpa [OrderedMap.names, EntityDefinition.initial, Members.put] using taken

/-- A model is refused under its own name and that of one of its fields. -/
theorem definition_error {problem : SchemaError} (h : model.definition = .error problem)
    : ∃ field ∈ model.fields.names,
        problem ∈
          [.multiplePrimaryKeys model.name field, .inlineRelation model.name field,
            .unsupportedTarget model.name field] := by
  obtain ⟨before, field, declaration, after, split, _, mistaken⟩ :=
    EntityDefinition.foldlM_addField_eq_error_iff.mp h
  refine ⟨field, Members.mem_names.mpr ⟨declaration, by simp [split]⟩, ?_⟩
  cases mistaken <;> simp

/-- Columns stand in order of declaration, behind the primary one. -/
theorem column_names_sublist (h : model.definition = .ok definition)
    : definition.columns.names.Sublist (primaryColumn :: model.fields.names) := by
  unfold OrderedMap.names
  rw [(definition_entries h).2.1, Members.names_cons]
  exact (Members.names_select_sublist _ _).cons_cons primaryColumn

/-- Relations stand in order of declaration. -/
theorem relation_names_sublist (h : model.definition = .ok definition)
    : definition.relations.names.Sublist model.fields.names := by
  unfold OrderedMap.names
  rw [(definition_entries h).2.2]
  exact Members.names_select_sublist _ _

/-- No name belongs to a column and a relation, since a declaration compiles to one of them.
-/
theorem column_relation_names_disjoint (h : model.definition = .ok definition)
    : definition.columns.names.Disjoint definition.relations.names := by
  intro name isColumn isRelation
  obtain ⟨ordinary, columns, relations⟩ := definition_entries h
  unfold OrderedMap.names at isColumn isRelation
  rw [columns, Members.names_cons] at isColumn
  rw [relations] at isRelation
  rcases List.mem_cons.mp isColumn with rfl | isColumn
  · exact ordinary ((Members.names_select_sublist _ _).subset isRelation)
  · obtain ⟨column, member⟩ := Members.mem_names.mp isColumn
    obtain ⟨declaration, declared, compiles⟩ := Members.mem_select.mp member
    obtain ⟨relation, member⟩ := Members.mem_names.mp isRelation
    obtain ⟨other, again, relates⟩ := Members.mem_select.mp member
    obtain rfl := Members.value_unique model.fields.distinct declared again
    simp [relation?_eq_none_of_column? compiles] at relates

end Model

end EntityViews
