import EntityViews.Proofs.Entity.Compilation

/-! Which fields compile, and what exactly they compile to.
Fields without a mistake all enter the definition, in order of declaration and each with the
options of its declaration.
-/

namespace EntityViews

/-- The column that a field declares; a bare logical type declares one without options. -/
def Declaration.declaredColumn? : Declaration → Option Column
  | .scalar type => some { type := .logical type }
  | .column declared => some declared
  | .relationTag _ => none
  | .relation _ => none

/-- The relation that a field declares in full. -/
def Declaration.declaredRelation? : Declaration → Option Relation
  | .relation declared => some declared
  | .scalar _ => none
  | .column _ => none
  | .relationTag _ => none

/-- The compiled column has every option of the declared one, and its storage type: that of the
logical type, or else the one that the declaration names.
-/
structure Column.CarriedBy (declared : Column) (column : ColumnDescriptor) : Prop where
  logical
    : ∀ type,
        declared.type = .logical type
        → column.storage = .ofLogical type ∧ column.logical? = some type
  raw
    : ∀ storage,
        declared.type = .raw storage → column.storage.name = storage ∧ column.logical? = none
  primary : column.primary = declared.primary
  generated : column.generated? = declared.generated?
  nullable : column.nullable = declared.nullable
  default : column.default? = declared.default?
  unique : column.unique = declared.unique
  createDate : column.createDate = declared.createDate
  updateDate : column.updateDate = declared.updateDate
  deleteDate : column.deleteDate = declared.deleteDate
  values : column.values? = declared.values?
  length : column.length? = declared.length?
  comment : column.comment? = declared.comment?

/-- The compiled relation leads to the name that the declared one has for its target, and has
every option of it.
-/
structure Relation.CarriedBy (declared : Relation) (relation : RelationDescriptor) : Prop where
  kind : relation.kind = declared.kind
  target : declared.target = .name relation.target
  cascade : relation.cascade = declared.cascade
  eager : relation.eager = declared.eager
  joinColumn : relation.joinColumn = declared.joinColumn
  joinTable : relation.joinTable = declared.joinTable
  inverseSide : relation.inverseSide? = declared.inverseSide?
  nullable : relation.nullable? = declared.nullable?
  onDelete : relation.onDelete? = declared.onDelete?

/-- A request to create a record has to supply the column: the database neither generates it nor
keeps a date in it, it may not be null, and it declares no default, not even null.
-/
structure Column.MustBeSupplied (declared : Column) : Prop where
  generated : ∀ generation ∈ declared.generated?, generation = .flag false
  createDate : declared.createDate = false
  updateDate : declared.updateDate = false
  deleteDate : declared.deleteDate = false
  nullable : declared.nullable = false
  default : declared.default? = none

/-- The definition holds the primary column and all that the fields declare, nothing else, each
under its own name and in order of declaration.
-/
structure DefinedBy (fields : Fields) (definition : EntityDefinition) : Prop where
  columnNames
    : definition.columns.names
      = primaryColumn :: Members.names (fields.entries.select Declaration.declaredColumn?)
  relationNames
    : definition.relations.names
      = Members.names (fields.entries.select Declaration.declaredRelation?)
  disjoint : definition.columns.names.Disjoint definition.relations.names
  names
    : ∀ name,
        name ∈ definition.columns.names ∨ name ∈ definition.relations.names
          ↔ name = primaryColumn ∨ name ∈ fields.names
  primaryColumns : definition.primaryColumns = [primaryColumn]
  primaryId : definition.columns.get? primaryColumn = some .primaryId
  columns
    : ∀ name declaration declared,
        (name, declaration) ∈ fields.entries
        → declaration.declaredColumn? = some declared
        → ∃ column, definition.columns.get? name = some column ∧ declared.CarriedBy column
  relations
    : ∀ name declaration declared,
        (name, declaration) ∈ fields.entries
        → declaration.declaredRelation? = some declared
        → ∃ relation,
            definition.relations.get? name = some relation ∧ declared.CarriedBy relation
  requiredOrder : definition.requiredColumns.Sublist fields.names
  required
    : ∀ name,
        name ∈ definition.requiredColumns
          ↔ ∃ declaration declared,
            (name, declaration) ∈ fields.entries
            ∧ declaration.declaredColumn? = some declared
            ∧ declared.MustBeSupplied

section Compiled

variable {declaration : Declaration} {declared : Column} {column : ColumnDescriptor}

/-- A declared column compiles with its options, unless it is to be a primary one. -/
theorem Declaration.column?_eq_some_iff
    : declaration.column? = some column
      ↔ ∃ declared,
        declaration.declaredColumn? = some declared
        ∧ declared.primary = false
        ∧ .ofColumn declared = column := by
  cases declaration with
  | scalar type => simp [column?, declaredColumn?]; rfl
  | column declared => simp [column?, declaredColumn?]
  | relationTag kind => simp [column?, declaredColumn?]
  | relation declared => simp [column?, declaredColumn?]

/-- A declared relation compiles with its options if its target is a name. -/
theorem Declaration.relation?_eq_some_iff {relation : RelationDescriptor}
    : declaration.relation? = some relation
      ↔ ∃ declared,
        declaration.declaredRelation? = some declared ∧ declared.CarriedBy relation := by
  cases declaration with
  | scalar type => simp [relation?, declaredRelation?]
  | column declared => simp [relation?, declaredRelation?]
  | relationTag kind => simp [relation?, declaredRelation?]
  | relation declared =>
      simp only [relation?, declaredRelation?, Option.some.injEq, exists_eq_left']
      constructor
      · intro compiles
        split at compiles
        · rename_i target named
          obtain rfl := Option.some.inj compiles
          exact ⟨rfl, named, rfl, rfl, rfl, rfl, rfl, rfl, rfl⟩
        · contradiction
      · intro carried
        simp only [carried.target, ← carried.kind, ← carried.cascade, ← carried.eager,
          ← carried.joinColumn, ← carried.joinTable, ← carried.inverseSide, ← carried.nullable,
          ← carried.onDelete]

theorem Column.carriedBy_ofColumn (declared : Column)
    : declared.CarriedBy (.ofColumn declared) := by
  refine ⟨?logical, ?raw, rfl, rfl, rfl, rfl, rfl, rfl, rfl, rfl, rfl, rfl, rfl⟩
  case logical =>
    intro type same
    simp [ColumnDescriptor.ofColumn, same, StorageType.ofColumnType, ColumnType.logical?]
  case raw =>
    intro storage same
    simp [ColumnDescriptor.ofColumn, same, StorageType.ofColumnType, ColumnType.logical?,
      StorageType.name]

/-- Compiling a column leaves open neither whether it has to be supplied nor why. -/
theorem Column.isRequired_ofColumn_iff
    : (ColumnDescriptor.ofColumn declared).isRequired = true ↔ declared.MustBeSupplied := by
  have off (generated? : Option Generation)
      : generated?.any Generation.isGenerated = false
        ↔ ∀ generation ∈ generated?, generation = .flag false := by
    rcases generated? with _ | (_ | _) <;> simp [Generation.isGenerated]
  simp only [ColumnDescriptor.isRequired, ColumnDescriptor.isGenerated,
    ColumnDescriptor.ofColumn, Bool.and_eq_true, Bool.not_eq_true', Bool.or_eq_false_iff, off,
    Option.isNone_iff_eq_none]
  constructor
  · rintro ⟨⟨⟨⟨⟨generated, createDate⟩, updateDate⟩, deleteDate⟩, nullable⟩, default⟩
    exact ⟨generated, createDate, updateDate, deleteDate, nullable, default⟩
  · rintro ⟨generated, createDate, updateDate, deleteDate, nullable, default⟩
    exact ⟨⟨⟨⟨⟨generated, createDate⟩, updateDate⟩, deleteDate⟩, nullable⟩, default⟩

end Compiled

section Defined

variable {model : String} {fields : Fields} {definition : EntityDefinition}

/-- Fields are refused exactly for the first mistake among them. -/
theorem normalize_eq_error_iff {problem : SchemaError}
    : normalize model fields = .error problem ↔ FirstMistake model fields.entries problem :=
  EntityDefinition.foldlM_addField_eq_error_iff

/-- Fields have a definition exactly if they are acceptable. -/
theorem exists_normalize_iff
    : (∃ definition, normalize model fields = .ok definition) ↔ Acceptable fields.entries := by
  rw [Except.exists_ok_iff, acceptable_iff model]
  simp only [Ne, normalize_eq_error_iff]
  rw [← not_exists, exists_firstMistake_iff]
  simp only [not_exists, not_and]

section Accepted

variable {name : String} {declaration : Declaration} {members : Members Declaration}

/-- The column that an acceptable field declares is compiled. -/
theorem Acceptable.column?_eq (h : Acceptable members)
    (member : (name, declaration) ∈ members) {declared : Column}
    (declares : declaration.declaredColumn? = some declared)
    : declaration.column? = some (.ofColumn declared) := by
  refine Declaration.column?_eq_some_iff.mpr ⟨declared, declares, ?_, rfl⟩
  cases declaration with
  | scalar type => exact Option.some.inj declares ▸ rfl
  | column column => exact Option.some.inj declares ▸ h.columns name column member
  | relationTag kind => contradiction
  | relation relation => contradiction

/-- The relation that an acceptable field declares is compiled. -/
theorem Acceptable.exists_relation?_eq (h : Acceptable members)
    (member : (name, declaration) ∈ members) {declared : Relation}
    (declares : declaration.declaredRelation? = some declared)
    : ∃ relation, declaration.relation? = some relation ∧ declared.CarriedBy relation := by
  cases declaration with
  | scalar type => contradiction
  | column column => contradiction
  | relationTag kind => contradiction
  | relation relation =>
      obtain rfl := Option.some.inj declares
      obtain ⟨target, named⟩ := h.targets name relation member
      obtain ⟨compiled, compiles⟩
          : ∃ compiled, (Declaration.relation relation).relation? = some compiled := by
        simp [Declaration.relation?, named]
      obtain ⟨same, again, carried⟩ := Declaration.relation?_eq_some_iff.mp compiles
      obtain rfl := Option.some.inj again
      exact ⟨compiled, compiles, carried⟩

/-- Acceptable fields compile to columns just where they declare some. -/
theorem Acceptable.isSome_column?_eq (h : Acceptable members) {entry : String × Declaration}
    (member : entry ∈ members)
    : entry.2.column?.isSome = entry.2.declaredColumn?.isSome := by
  obtain ⟨name, declaration⟩ := entry
  cases declares : declaration.declaredColumn? with
  | some declared => rw [h.column?_eq member declares]; rfl
  | none => cases declaration <;> first | rfl | contradiction

/-- Acceptable fields compile to relations just where they declare some. -/
theorem Acceptable.isSome_relation?_eq (h : Acceptable members) {entry : String × Declaration}
    (member : entry ∈ members)
    : entry.2.relation?.isSome = entry.2.declaredRelation?.isSome := by
  obtain ⟨name, declaration⟩ := entry
  cases declares : declaration.declaredRelation? with
  | some declared =>
      obtain ⟨relation, compiles, _⟩ := h.exists_relation?_eq member declares
      rw [compiles]
      rfl
  | none => cases declaration <;> first | rfl | contradiction

/-- An acceptable field declares a column or a relation. -/
theorem Acceptable.declares (h : Acceptable members) (member : (name, declaration) ∈ members)
    : declaration.declaredColumn?.isSome ∨ declaration.declaredRelation?.isSome := by
  cases declaration with
  | scalar type => exact Or.inl rfl
  | column column => exact Or.inl rfl
  | relationTag kind => exact absurd member (h.declared name kind)
  | relation relation => exact Or.inr rfl

end Accepted

variable {name : String}

/-- The fields of a model make the definition of every model that has them. -/
theorem definition_of_normalize (h : normalize model fields = .ok definition)
    : ({ serial := 0, name := model, fields } : Model).definition = .ok definition :=
  h

theorem mem_columns_iff (h : normalize model fields = .ok definition)
    {column : ColumnDescriptor}
    : (name, column) ∈ definition.columns.entries
      ↔ name = primaryColumn ∧ column = .primaryId
        ∨ ∃ declaration,
          (name, declaration) ∈ fields.entries ∧ declaration.column? = some column := by
  rw [(Model.definition_entries (definition_of_normalize h)).2.1, List.mem_cons,
    Prod.mk.injEq, Members.mem_select]

theorem mem_relations_iff (h : normalize model fields = .ok definition)
    {relation : RelationDescriptor}
    : (name, relation) ∈ definition.relations.entries
      ↔ ∃ declaration,
        (name, declaration) ∈ fields.entries ∧ declaration.relation? = some relation := by
  rw [(Model.definition_entries (definition_of_normalize h)).2.2, Members.mem_select]

/-- Only the primary column is primary, since no other primary one compiles. -/
theorem primaryColumns_of_normalize (h : normalize model fields = .ok definition)
    : definition.primaryColumns = [primaryColumn] := by
  have others
      : ((fields.entries.select Declaration.column?).filter fun entry => entry.2.primary)
        = [] := by
    refine List.filter_eq_nil_iff.mpr fun entry member => ?_
    obtain ⟨declaration, _, compiles⟩ := Members.mem_select.mp member
    obtain ⟨declared, _, secondary, same⟩ := Declaration.column?_eq_some_iff.mp compiles
    simp [← same, ColumnDescriptor.ofColumn, secondary]
  rw [EntityDefinition.primaryColumns,
    (Model.definition_entries (definition_of_normalize h)).2.1, List.filter_cons_of_pos rfl,
    others]
  rfl

/-- The required columns are declared ones, since the primary column is generated. -/
theorem requiredColumns_of_normalize (h : normalize model fields = .ok definition)
    : definition.requiredColumns
      = Members.names
        ((fields.entries.select Declaration.column?).filter fun entry => entry.2.isRequired) := by
  rw [EntityDefinition.requiredColumns,
    (Model.definition_entries (definition_of_normalize h)).2.1, List.filter_cons_of_neg]
  · rfl
  · simp [ColumnDescriptor.primaryId, ColumnDescriptor.isRequired,
      ColumnDescriptor.isGenerated, Generation.isGenerated]

theorem mem_requiredColumns_iff (h : normalize model fields = .ok definition)
    : name ∈ definition.requiredColumns
      ↔ ∃ declaration declared,
        (name, declaration) ∈ fields.entries
        ∧ declaration.declaredColumn? = some declared
        ∧ declared.MustBeSupplied := by
  have acceptable : Acceptable fields.entries := exists_normalize_iff.mp ⟨definition, h⟩
  rw [requiredColumns_of_normalize h]
  simp only [Members.mem_names, List.mem_filter, Members.mem_select]
  constructor
  · rintro ⟨column, ⟨declaration, member, compiles⟩, required⟩
    obtain ⟨declared, declares, _, rfl⟩ := Declaration.column?_eq_some_iff.mp compiles
    exact ⟨declaration, declared, member, declares,
      Column.isRequired_ofColumn_iff.mp required⟩
  · rintro ⟨declaration, declared, member, declares, supplied⟩
    exact ⟨.ofColumn declared, ⟨declaration, member, acceptable.column?_eq member declares⟩,
      Column.isRequired_ofColumn_iff.mpr supplied⟩

/-- A definition holds what its fields declare and nothing else. -/
theorem definedBy_of_normalize (h : normalize model fields = .ok definition)
    : DefinedBy fields definition := by
  have acceptable : Acceptable fields.entries := exists_normalize_iff.mp ⟨definition, h⟩
  have compiles := definition_of_normalize h
  obtain ⟨_, columns, relations⟩ := Model.definition_entries compiles
  refine ⟨?columnNames, ?relationNames, Model.column_relation_names_disjoint compiles, ?names,
    primaryColumns_of_normalize h, ?primaryId, ?columns, ?relations, ?requiredOrder,
    fun _ => mem_requiredColumns_iff h⟩
  case columnNames =>
    rw [OrderedMap.names, columns, Members.names_cons]
    refine congrArg _ (Members.names_select_congr fun entry member => ?_)
    exact acceptable.isSome_column?_eq member
  case relationNames =>
    rw [OrderedMap.names, relations]
    exact Members.names_select_congr fun entry member => acceptable.isSome_relation?_eq member
  case names =>
    intro name
    constructor
    · rintro (isColumn | isRelation)
      · exact List.mem_cons.mp ((Model.column_names_sublist compiles).subset isColumn)
      · exact Or.inr ((Model.relation_names_sublist compiles).subset isRelation)
    · rintro (rfl | member)
      · exact Or.inl (Members.mem_names.mpr
          ⟨.primaryId, (mem_columns_iff h).mpr (Or.inl ⟨rfl, rfl⟩)⟩)
      · obtain ⟨declaration, declared⟩ := Members.mem_names.mp member
        rcases acceptable.declares declared with isColumn | isRelation
        · obtain ⟨column, compiles⟩ := Option.isSome_iff_exists.mp
            ((acceptable.isSome_column?_eq declared).trans isColumn)
          exact Or.inl (Members.mem_names.mpr
            ⟨column, (mem_columns_iff h).mpr (Or.inr ⟨declaration, declared, compiles⟩)⟩)
        · obtain ⟨relation, compiles⟩ := Option.isSome_iff_exists.mp
            ((acceptable.isSome_relation?_eq declared).trans isRelation)
          exact Or.inr (Members.mem_names.mpr
            ⟨relation, (mem_relations_iff h).mpr ⟨declaration, declared, compiles⟩⟩)
  case primaryId =>
    exact (Members.lookup_eq_some_iff definition.columns.distinct).mpr
      ((mem_columns_iff h).mpr (Or.inl ⟨rfl, rfl⟩))
  case columns =>
    intro name declaration declared member declares
    refine ⟨.ofColumn declared, ?_, declared.carriedBy_ofColumn⟩
    exact (Members.lookup_eq_some_iff definition.columns.distinct).mpr
      ((mem_columns_iff h).mpr
        (Or.inr ⟨declaration, member, acceptable.column?_eq member declares⟩))
  case relations =>
    intro name declaration declared member declares
    obtain ⟨relation, compiles, carried⟩ := acceptable.exists_relation?_eq member declares
    refine ⟨relation, ?_, carried⟩
    exact (Members.lookup_eq_some_iff definition.relations.distinct).mpr
      ((mem_relations_iff h).mpr ⟨declaration, member, compiles⟩)
  case requiredOrder =>
    rw [requiredColumns_of_normalize h]
    exact (Members.names_filter_sublist _ _).trans (Members.names_select_sublist _ _)

/-- Normalization is exact: it succeeds just for acceptable fields, otherwise it reports the
first mistake, and a definition is made of all that the fields declare and of nothing else.
-/
theorem normalize_exact (model : String) (fields : Fields)
    : ((∃ definition, normalize model fields = .ok definition) ↔ Acceptable fields.entries)
      ∧ (∀ problem,
          normalize model fields = .error problem
            ↔ FirstMistake model fields.entries problem)
      ∧ ∀ definition, normalize model fields = .ok definition → DefinedBy fields definition :=
  ⟨exists_normalize_iff, fun _ => normalize_eq_error_iff, fun _ => definedBy_of_normalize⟩

end Defined

/-- The fields of an article: columns in short and in full, and a relation between them. -/
def articleFields : Fields :=
  .ofList
    [
      ("title", .scalar .string),
      ("author",
        .relation { kind := .manyToOne, target := .name "Author", cascade := .only [.insert] }),
      ("body", .column { type := .raw "text", comment? := some "Markdown" }),
      ("note", .column { type := .logical .string, default? := some .null }),
      ("added", .column { type := .logical .date, createDate := true })
    ]

/-- An article is defined by its fields; with a code as a second primary column and a bare tag
behind it, the code is what is reported.
-/
theorem article_exact
    : (∃ definition,
        normalize "Article" articleFields = .ok definition
        ∧ DefinedBy articleFields definition
        ∧ definition.requiredColumns = ["title", "body"])
      ∧ FirstMistake "Article"
        (articleFields.entries
          ++ [
            ("code", .column { type := .logical .string, primary := true }),
            ("tag", .relationTag .manyToMany)
          ])
        (.multiplePrimaryKeys "Article" "code") := by
  refine ⟨⟨_, rfl, (normalize_exact "Article" articleFields).2.2 _ rfl, rfl⟩, ?_⟩
  exact ((normalize_exact "Article" ⟨_, by decide⟩).2.1 _).mp rfl

end EntityViews
