import EntityViews.Proofs.Declaration.RoundTrip
import EntityViews.Proofs.Entity.Exactness
import EntityViews.Proofs.View.WellFormed

/-! What a form changes of its base document.
Uploads replace the file columns of the model itself. They go by name, and no other property has
the name of a file column.
-/

namespace EntityViews

/-- The declaration is that of a file column, in short or in full. -/
def Declaration.IsFile (declaration : Declaration) : Prop :=
  ∃ declared, declaration.declaredColumn? = some declared ∧ declared.type = .logical .file

/-- The field of that name is a file column. -/
def Fields.DeclareFile (fields : Fields) (name : String) : Prop :=
  ∃ declaration, (name, declaration) ∈ fields.entries ∧ declaration.IsFile

/-- The type that the value declares is spelled as a file, in short or in full. -/
def Json.SpellsFile (value : Json) : Prop :=
  ∃ word ∈ LogicalType.file.spellings,
    value = .string word
    ∨ ∃ members, value = .object members ∧ members.lookup "type" = some (.string word)

/-- The words for a file spell no other type and no relation kind. -/
theorem LogicalType.parse?_eq_file_iff {word : String}
    : parse? word = some .file ↔ word ∈ file.spellings := by
  constructor
  · exact mem_spellings_of_parse?
  · intro spelled
    rcases List.mem_cons.mp spelled with rfl | later
    · decide
    · obtain rfl := List.mem_singleton.mp later
      decide

theorem RelationKind.parse?_eq_none_of_file {word : String}
    (h : word ∈ LogicalType.file.spellings)
    : RelationKind.parse? word = none :=
  RelationKind.parse?_eq_none_of_logical (LogicalType.parse?_eq_file_iff.mpr h)

theorem ColumnType.ofWord_eq_file_iff {word : String}
    : ofWord word = .logical .file ↔ word ∈ LogicalType.file.spellings := by
  rw [← LogicalType.parse?_eq_file_iff, ofWord]
  split <;> simp_all

@[simp]
theorem Json.spellsFile_string {word : String}
    : (Json.string word).SpellsFile ↔ word ∈ LogicalType.file.spellings := by
  simp [SpellsFile]

@[simp]
theorem Json.spellsFile_object {members : Members Json}
    : (Json.object members).SpellsFile
      ↔ ∃ word ∈ LogicalType.file.spellings, members.lookup "type" = some (.string word) := by
  simp [SpellsFile]

@[simp]
theorem Declaration.isFile_scalar {type : LogicalType}
    : (Declaration.scalar type).IsFile ↔ type = .file := by
  simp [IsFile, declaredColumn?]

@[simp]
theorem Declaration.isFile_column {declared : Column}
    : (Declaration.column declared).IsFile ↔ declared.type = .logical .file := by
  simp [IsFile, declaredColumn?]

@[simp]
theorem Declaration.not_isFile_relationTag {kind : RelationKind}
    : ¬ (Declaration.relationTag kind).IsFile := by
  simp [IsFile, declaredColumn?]

@[simp]
theorem Declaration.not_isFile_relation {declared : Relation}
    : ¬ (Declaration.relation declared).IsFile := by
  simp [IsFile, declaredColumn?]

/-- A value that declares a field declares a file exactly if it spells one. -/
theorem Declaration.isFile_iff_spellsFile {value : Json} {declaration : Declaration}
    (h : ofJson value = .ok declaration)
    : declaration.IsFile ↔ value.SpellsFile := by
  cases value with
  | string word =>
      rw [Json.spellsFile_string, ← LogicalType.parse?_eq_file_iff]
      simp only [ofJson, ofWord] at h
      split at h
      · rename_i kind spelled
        obtain rfl := Except.ok.inj h
        refine iff_of_false not_isFile_relationTag fun file => ?_
        rw [RelationKind.parse?_eq_none_of_file (LogicalType.parse?_eq_file_iff.mp file)]
          at spelled
        contradiction
      · split at h
        · rename_i type spelled
          obtain rfl := Except.ok.inj h
          rw [isFile_scalar, spelled, Option.some.injEq]
        · contradiction
  | object members =>
      rw [Json.spellsFile_object]
      simp only [ofJson] at h
      split at h
      · rename_i word named
        simp only [named, Option.some.injEq, Json.string.injEq, exists_eq_right']
        split at h
        · rename_i kind spelled
          split at h
          · obtain rfl := Except.ok.inj h
            refine iff_of_false not_isFile_relation fun file => ?_
            rw [RelationKind.parse?_eq_none_of_file file] at spelled
            contradiction
          · contradiction
        · split at h
          · rename_i declared read
            obtain rfl := Except.ok.inj h
            rw [isFile_column, (Column.type_and_default_of_ofMembers read).1,
              ColumnType.ofWord_eq_file_iff]
          · contradiction
      · contradiction
      · contradiction
  | null | boolean _ | number _ | array _ => contradiction

section Uploads

variable {model : Model} {definition : EntityDefinition} {name mark id : String}

/-- The file columns of a definition are those that the fields declare as files. -/
theorem EntityDefinition.isFile_iff_declareFile (h : model.definition = .ok definition)
    : (definition.columns.get? name).any ColumnDescriptor.isFile = true
      ↔ model.fields.DeclareFile name := by
  rw [Option.any_eq_true]
  constructor
  · rintro ⟨column, found, file⟩
    have member := (Members.lookup_eq_some_iff definition.columns.distinct).mp found
    rcases (mem_columns_iff h).mp member with ⟨_, rfl⟩ | ⟨declaration, declared, compiles⟩
    · contradiction
    · obtain ⟨written, declares, _, rfl⟩ := Declaration.column?_eq_some_iff.mp compiles
      refine ⟨declaration, declared, written, declares, ?_⟩
      cases type : written.type <;>
        simp_all [ColumnDescriptor.isFile, ColumnDescriptor.ofColumn, ColumnType.logical?]
  · rintro ⟨declaration, declared, written, declares, type⟩
    obtain ⟨column, found, carried⟩ :=
      (definedBy_of_normalize h).columns name declaration written declared declares
    exact ⟨column, found, by simp [ColumnDescriptor.isFile, (carried.logical .file type).2]⟩

/-- A form shows the properties of the base document under their names, with an upload in place
of each file column.
-/
theorem EntityDefinition.property?_toForm (definition : EntityDefinition) (mark id : String)
    (document : Document) (name : String)
    : (definition.toForm mark id document).property? name
      = (document.property? name).map fun property =>
          if (definition.columns.get? name).any ColumnDescriptor.isFile then .upload mark
          else property := by
  refine Eq.trans ?_ (Members.lookup_map_values
    (fun name property =>
      if (definition.columns.get? name).any ColumnDescriptor.isFile then .upload mark
      else property)
    document.properties name)
  refine congrArg (List.lookup name) (List.map_congr_left fun entry _ => ?_)
  unfold uploadProperty
  cases definition.columns.get? entry.1 with
  | none => rfl
  | some column => cases file : column.isFile <;> simp [file]

end Uploads

/-- The form has the properties of the base document in their order. New are its identifier and
the uploads, under the names of the file columns that the base document keeps.
-/
structure UploadsFiles (settings : ViewSettings) (kind : FormKind) (model : Model)
    (qualifier : Option String) (base form : Document)
    : Prop where
  identifier : form.id? = some (schemaId model.name kind.label qualifier)
  names : Members.names form.properties = Members.names base.properties
  required : form.required? = base.required?
  kept
    : ∀ name declaration declared,
        (name, declaration) ∈ model.fields.entries
        → declaration.declaredColumn? = some declared
        → (name ∈ Members.names base.properties
          ↔ kind.base.keeps (.ofColumn declared) = true)
  uploads
    : ∀ name mark,
        form.property? name = some (.upload mark)
          ↔ mark = settings.fileMark
            ∧ name ∈ Members.names base.properties
            ∧ model.fields.DeclareFile name
  others
    : ∀ name,
        (∀ mark, form.property? name ≠ some (.upload mark))
        → form.property? name = base.property? name

section Generated

variable {registry : Registry} {settings : ViewSettings} {kind : FormKind} {model : Model}
  {qualifier : Option String} {base : Document}

/-- A base document uploads nothing. -/
theorem property?_ne_upload {kind : ViewKind}
    (h : View.generate registry settings (.base kind) model qualifier = .ok base)
    (name mark : String)
    : base.property? name ≠ some (.upload mark) := by
  intro found
  have wellFormed := wellFormed_of_generate_base h
  have member := (Members.lookup_eq_some_iff (wellFormed.fits (.here base)).distinct).mp found
  obtain ⟨_, _, isForm⟩ := wellFormed.uploads (.here base) member
  contradiction

/-- A base document keeps a declared column exactly if its kind keeps it; no followed relation
has its name.
-/
theorem mem_names_iff_keeps {kind : ViewKind} {name : String} {declaration : Declaration}
    {declared : Column}
    (h : View.generate registry settings (.base kind) model qualifier = .ok base)
    (member : (name, declaration) ∈ model.fields.entries)
    (declares : declaration.declaredColumn? = some declared)
    : name ∈ Members.names base.properties ↔ kind.keeps (.ofColumn declared) = true := by
  obtain ⟨body, unrolled, rfl⟩ := generate_eq_ok_iff.mp h
  obtain ⟨_, definition, embedded, _, isBody⟩ := exists_isBody_of_unroll unrolled
  have compiles := isBody.compiles
  have acceptable : Acceptable model.fields.entries :=
    exists_normalize_iff.mp ⟨definition, compiles⟩
  have isColumn : (name, .ofColumn declared) ∈ definition.columns.entries :=
    (mem_columns_iff compiles).mpr
      (Or.inr ⟨declaration, member, acceptable.column?_eq member declares⟩)
  have unrelated : name ∉ Members.names (definition.followed kind) := fun followed =>
    Model.column_relation_names_disjoint compiles
      (Members.mem_names.mpr ⟨_, isColumn⟩)
      ((definition.names_followed_sublist kind).subset followed)
  change name ∈ Members.names body.properties ↔ _
  rw [isBody.names, List.mem_append, or_iff_left unrelated, ← definition.names_columnProperties,
    EntityDefinition.columnProperties, Members.names_map_values, Members.mem_names]
  constructor
  · rintro ⟨column, shown⟩
    obtain ⟨present, keeps⟩ := List.mem_filter.mp shown
    rwa [Members.value_unique definition.columns.distinct present isColumn] at keeps
  · intro keeps
    exact ⟨_, List.mem_filter.mpr ⟨isColumn, keeps⟩⟩

/-- The form that is made of a base document uploads its files. -/
theorem uploadsFiles_toForm {definition : EntityDefinition}
    (h : View.generate registry settings (.base kind.base) model qualifier = .ok base)
    (compiles : model.definition = .ok definition)
    : UploadsFiles settings kind model qualifier base
        (definition.toForm settings.fileMark (schemaId model.name kind.label qualifier)
          base) := by
  refine ⟨rfl, definition.names_toForm _ _ _, rfl, fun _ _ _ => mem_names_iff_keeps h, ?uploads,
    ?others⟩
  case uploads =>
    intro name mark
    rw [definition.property?_toForm, ← EntityDefinition.isFile_iff_declareFile compiles,
      ← Members.isSome_lookup_iff]
    change _ ↔ mark = settings.fileMark ∧ (base.property? name).isSome ∧ _
    cases found : base.property? name with
    | none => simp
    | some property =>
        have plain : property ≠ .upload mark := fun same =>
          property?_ne_upload h name mark (found.trans (congrArg some same))
        by_cases file : (definition.columns.get? name).any ColumnDescriptor.isFile = true
        · simp [file, eq_comm]
        · simp [file, plain]
  case others =>
    intro name plain
    rw [definition.property?_toForm] at plain ⊢
    cases found : base.property? name with
    | none => rfl
    | some property =>
        rw [found] at plain
        split
        · rename_i file
          exact absurd (by simp [file]) (plain settings.fileMark)
        · rfl

/-- A form fails just as its base view does. Where they succeed it uploads the files of the model
itself, however these are spelled, and leaves all other properties as they are.
-/
theorem generate_form_uploadsFiles (registry : Registry) (settings : ViewSettings)
    (kind : FormKind) (model : Model) (qualifier : Option String)
    : (∀ halt,
        View.generate registry settings (.form kind) model qualifier = .error halt
          ↔ View.generate registry settings (.base kind.base) model qualifier = .error halt)
      ∧ (∀ base form,
          View.generate registry settings (.base kind.base) model qualifier = .ok base
          → View.generate registry settings (.form kind) model qualifier = .ok form
          → UploadsFiles settings kind model qualifier base form)
      ∧ ∀ value declaration,
          Declaration.ofJson value = .ok declaration
          → (declaration.IsFile ↔ value.SpellsFile) := by
  refine ⟨fun _ => generate_error_iff qualifier, ?_, fun _ _ => Declaration.isFile_iff_spellsFile⟩
  intro base form answered formed
  obtain ⟨definition, compiles⟩ := exists_definition_of_generate answered
  rw [generate_form, answered, compiles] at formed
  obtain rfl := Except.ok.inj formed
  exact uploadsFiles_toForm answered compiles

end Generated

/-- The form for a new album uploads the cover and keeps the photographs with their images; a
file may also be spelled in capitals.
-/
theorem createAlbum_uploadsFiles
    : (∃ base form,
        View.generate photoAlbums { maxDepth? := some 1 } (.base .create) albumModel none
          = .ok base
        ∧ View.generate photoAlbums { maxDepth? := some 1 } (.form .create) albumModel none
          = .ok form
        ∧ UploadsFiles { maxDepth? := some 1 } .create albumModel none base form
        ∧ form.property? "cover" = some (.upload "customSwaggerProps")
        ∧ form.property? "photographs" = base.property? "photographs")
      ∧ Declaration.ofJson (.object [("type", .string "FILE")])
        = .ok (.column { type := .logical .file })
      ∧ (Json.object [("type", .string "FILE")]).SpellsFile := by
  constructor
  · exact ⟨_, _, rfl, rfl,
      (generate_form_uploadsFiles photoAlbums _ .create albumModel none).2.1 _ _ rfl rfl, rfl, rfl⟩
  · exact ⟨rfl, ((generate_form_uploadsFiles photoAlbums {} .create albumModel none).2.2 _ _
      rfl).mp (Declaration.isFile_column.mpr rfl)⟩

end EntityViews
