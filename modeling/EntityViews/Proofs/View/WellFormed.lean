import EntityViews.Proofs.View.Forms
import EntityViews.Proofs.View.Nesting

/-! Documents that are well formed at every level of nesting.
Bodies of views list required properties, show the primary column and embed objects as their kind
has it. A form differs from its base document at the top level only.
-/

namespace EntityViews

/-- The required names are listed in the order of the properties. None is that of the primary
column, and each has a property that holds no object.
-/
structure ListsRequired (object : Document) (required : List String) : Prop where
  distinct : required.Nodup
  ordered : required.Sublist (Members.names object.properties)
  ordinary : primaryColumn ∉ required
  plain
    : ∀ name ∈ required,
        ∃ property, object.property? name = some property ∧ ∀ inner, ¬ property.Holds inner

/-- What every object of a document shows of the kind of its base view. -/
structure FitsKind (kind : ViewKind) (object : Document) : Prop where
  distinct : (Members.names object.properties).Nodup
  required
    : kind = .create
      → ∃ required, object.required? = some required ∧ ListsRequired object required
  optional : kind ≠ .create → object.required? = none
  identity : kind = .full → object.properties.head? = some (primaryColumn, .scalar .integer)
  ordinary : kind ≠ .full → primaryColumn ∉ Members.names object.properties
  arrays
    : ∀ name items,
        (name, .array items) ∈ object.properties → ∃ inner, items = .embedded inner

/-- The document of a view is in order from its top level to the innermost objects. -/
structure WellFormed (settings : ViewSettings) (view : View) (document : Document) : Prop where
  identified : document.id?.isSome
  anonymous : ∀ {depth object}, Nested (depth + 1) document object → object.id? = none
  fits : ∀ {depth object}, Nested depth document object → FitsKind view.baseKind object
  uploads
    : ∀ {depth object name mark},
        Nested depth document object
        → (name, .upload mark) ∈ object.properties
        → depth = 0 ∧ ∃ kind, view = .form kind
  bounded
    : ∀ {limit depth object},
        settings.maxDepth? = some limit → Nested depth document object → depth ≤ limit

variable {registry : Registry} {settings : ViewSettings} {kind : ViewKind} {model : Model}
  {definition : EntityDefinition} {object : Document}

/-- The columns of a definition are the primary one and columns of other names. -/
theorem Model.columns_entries (h : model.definition = .ok definition)
    : ∃ others : Members ColumnDescriptor,
        definition.columns.entries = (primaryColumn, .primaryId) :: others
        ∧ primaryColumn ∉ others.names := by
  obtain ⟨ordinary, columns, _⟩ := definition_entries h
  refine ⟨_, columns, fun member => ordinary ?_⟩
  exact (Members.names_select_sublist _ _).subset member

theorem Model.primaryColumn_not_mem_relations (h : model.definition = .ok definition)
    : primaryColumn ∉ definition.relations.names := fun member =>
  (definition_entries h).1 ((relation_names_sublist h).subset member)

/-- The primary column is generated, so only a full view shows it. -/
theorem Model.primaryColumn_not_mem_shown (h : model.definition = .ok definition)
    (other : kind ≠ .full)
    : primaryColumn ∉ Members.names (definition.shown kind) := by
  obtain ⟨others, columns, ordinary⟩ := columns_entries h
  have shown
      : definition.shown kind
        = definition.columns.entries.filter fun entry => !entry.2.isGenerated := by
    cases kind with
    | create | update => rfl
    | full => contradiction
  rw [shown, columns, List.filter_cons_of_neg (by simp [ColumnDescriptor.primaryId,
    ColumnDescriptor.isGenerated, Generation.isGenerated])]
  exact fun member => ordinary ((Members.names_filter_sublist _ _).subset member)

/-- A column is required only if it is not generated. -/
theorem EntityDefinition.requiredColumns_sublist (definition : EntityDefinition)
    : definition.requiredColumns.Sublist (Members.names (definition.shown .create)) := by
  refine List.Sublist.map Prod.fst (List.monotone_filter_right _ ?_)
  intro entry required
  simp only [ColumnDescriptor.isRequired, Bool.and_eq_true] at required
  exact required.1.1

namespace IsBody

variable {levels : Nat} {embedded : List (String × Property)} {body : Document}

/-- The required columns are listed among the properties of columns, which hold no object. -/
theorem listsRequired (h : IsBody registry .create levels model definition embedded body)
    : ListsRequired body definition.requiredColumns := by
  have ordered := definition.requiredColumns_sublist
  refine ⟨?distinct, ?ordered, ?ordinary, ?plain⟩
  case distinct =>
    exact (ordered.trans (definition.names_shown_sublist .create)).nodup
      definition.columns.distinct
  case ordered =>
    rw [h.names]
    exact ordered.trans (List.sublist_append_left _ _)
  case ordinary =>
    exact fun member =>
      Model.primaryColumn_not_mem_shown h.compiles (by decide) (ordered.subset member)
  case plain =>
    intro name member
    obtain ⟨column, shown⟩ := Members.mem_names.mp (ordered.subset member)
    refine ⟨column.property, (Members.lookup_eq_some_iff h.nodup_names).mpr ?_,
      fun _ => column.not_holds_property⟩
    rw [h.properties, definition.columnProperties_eq]
    exact List.mem_append_left _ (List.mem_map.mpr ⟨(name, column), shown, rfl⟩)

theorem fitsKind (h : IsBody registry kind levels model definition embedded body)
    : FitsKind kind body := by
  refine ⟨h.nodup_names, ?required, ?optional, ?identity, ?ordinary, ?arrays⟩
  case required =>
    rintro rfl
    exact ⟨definition.requiredColumns, by rw [h.shows]; rfl, h.listsRequired⟩
  case optional =>
    intro other
    rw [h.shows]
    exact if_neg other
  case identity =>
    rintro rfl
    obtain ⟨others, columns, _⟩ := Model.columns_entries h.compiles
    rw [h.properties, definition.columnProperties_eq, EntityDefinition.shown, columns]
    rfl
  case ordinary =>
    intro other member
    rw [h.names, List.mem_append] at member
    rcases member with column | relation
    · exact Model.primaryColumn_not_mem_shown h.compiles other column
    · exact Model.primaryColumn_not_mem_relations h.compiles
        ((definition.names_followed_sublist kind).subset relation)
  case arrays =>
    intro name items member
    rcases h.property_cases member with ⟨column, same⟩ | ⟨relation, _, inner, _, same⟩
    · rcases column.property_cases with free | ⟨type, scalar⟩
      · simp [free] at same
      · simp [scalar] at same
    · obtain ⟨object, embeds | lists⟩ := relation.property_cases inner
      · simp [embeds] at same
      · exact ⟨object, Property.array.inj (same.trans lists)⟩

theorem no_upload (h : IsBody registry kind levels model definition embedded body)
    {name mark : String}
    : (name, .upload mark) ∉ body.properties := by
  intro member
  rcases h.property_cases member with ⟨column, same⟩ | ⟨relation, _, inner, _, same⟩
  · rcases column.property_cases with free | ⟨type, scalar⟩
    · simp [free] at same
    · simp [scalar] at same
  · obtain ⟨object, embeds | lists⟩ := relation.property_cases inner
    · simp [embeds] at same
    · simp [lists] at same

end IsBody

/-- The identifier is no part of what fits a kind. -/
theorem FitsKind.withId (h : FitsKind kind object) (id : String)
    : FitsKind kind (object.withId id) := by
  refine ⟨h.distinct, ?_, h.optional, h.identity, h.ordinary, h.arrays⟩
  intro create
  obtain ⟨required, listed, lists⟩ := h.required create
  exact ⟨required, listed, lists.distinct, lists.ordered, lists.ordinary, lists.plain⟩

/-- The document of a base view is well formed, since all objects inside it are bodies. -/
theorem wellFormed_of_generate_base {qualifier : Option String} {document : Document}
    (h : View.generate registry settings (.base kind) model qualifier = .ok document)
    : WellFormed settings (.base kind) document := by
  obtain ⟨body, unrolled, rfl⟩ := generate_eq_ok_iff.mp h
  obtain ⟨_, _, _, _, isBody⟩ := exists_isBody_of_unroll unrolled
  have inside {depth : Nat} {object : Document}
      (nested : Nested (depth + 1)
        (body.withId (schemaId model.name kind.label qualifier)) object)
      : ∃ fewer target definition embedded,
          levelsFor registry settings.maxDepth? = depth + 1 + fewer + 1
          ∧ IsBody registry kind fewer target definition embedded object :=
    exists_isBody_of_nested unrolled (nested.transfer fun _ => id)
  refine ⟨rfl, ?anonymous, ?fits, ?uploads, ?bounded⟩
  case anonymous =>
    intro depth object nested
    obtain ⟨_, _, _, _, _, isInner⟩ := inside nested
    exact isInner.id?_eq_none
  case fits =>
    intro depth object nested
    cases depth with
    | zero =>
        cases nested
        exact isBody.fitsKind.withId _
    | succ depth =>
        obtain ⟨_, _, _, _, _, isInner⟩ := inside nested
        exact isInner.fitsKind
  case uploads =>
    intro depth object name mark nested member
    cases depth with
    | zero =>
        cases nested
        exact absurd member isBody.no_upload
    | succ depth =>
        obtain ⟨_, _, _, _, _, isInner⟩ := inside nested
        exact absurd member isInner.no_upload
  case bounded =>
    intro limit depth object limited nested
    cases depth with
    | zero => exact Nat.zero_le limit
    | succ depth =>
        obtain ⟨_, _, _, _, total, _⟩ := inside nested
        rw [limited, levelsFor] at total
        omega

section Forms

variable {mark id : String}

/-- A property of a form is that of the base document or an upload. -/
theorem EntityDefinition.uploadProperty_cases (definition : EntityDefinition) (mark : String)
    (entry : String × Property)
    : definition.uploadProperty mark entry = entry
      ∨ definition.uploadProperty mark entry = (entry.1, .upload mark) := by
  unfold uploadProperty
  split
  · split
    · exact Or.inr rfl
    · exact Or.inl rfl
  · exact Or.inl rfl

theorem EntityDefinition.names_toForm (definition : EntityDefinition) (mark id : String)
    (object : Document)
    : Members.names (definition.toForm mark id object).properties
      = Members.names object.properties := by
  unfold toForm Members.names
  rw [List.map_map]
  refine List.map_congr_left fun entry _ => ?_
  rw [Function.comp_apply]
  rcases definition.uploadProperty_cases mark entry with same | upload
  · rw [same]
  · rw [upload]

/-- What a form shows other than an upload, the base document shows. -/
theorem EntityDefinition.mem_of_mem_toForm {name : String} {property : Property}
    (h : (name, property) ∈ (definition.toForm mark id object).properties)
    (other : ∀ mark, property ≠ .upload mark)
    : (name, property) ∈ object.properties := by
  obtain ⟨entry, member, shown⟩ := List.mem_map.mp h
  rcases definition.uploadProperty_cases mark entry with same | upload
  · rwa [← shown, same]
  · exact absurd (Prod.mk.inj (shown.symm.trans upload)).2 (other mark)

theorem Property.Holds.ne_upload {property : Property} (h : property.Holds object)
    (mark : String)
    : property ≠ .upload mark := by
  rintro rfl
  contradiction

/-- Uploads hold nothing, so a form embeds what the base document does. -/
theorem EntityDefinition.embeds_of_toForm {inner : Document}
    (h : Embeds (definition.toForm mark id object) inner)
    : Embeds object inner := by
  obtain ⟨name, property, member, holds⟩ := h
  exact ⟨name, property, mem_of_mem_toForm member holds.ne_upload, holds⟩

/-- A property of the base document that holds no object becomes one in the form. -/
theorem EntityDefinition.exists_property_toForm (definition : EntityDefinition)
    (distinct : (Members.names object.properties).Nodup) {name : String}
    (h
      : ∃ property,
          object.property? name = some property ∧ ∀ inner, ¬ property.Holds inner)
    : ∃ property,
        (definition.toForm mark id object).property? name = some property
        ∧ ∀ inner, ¬ property.Holds inner := by
  obtain ⟨property, found, plain⟩ := h
  have member : (name, property) ∈ object.properties :=
    (Members.lookup_eq_some_iff distinct).mp found
  rw [← definition.names_toForm mark id object] at distinct
  have shown
      : definition.uploadProperty mark (name, property)
        ∈ (definition.toForm mark id object).properties :=
    List.mem_map_of_mem member
  rcases definition.uploadProperty_cases mark (name, property) with same | upload
  · rw [same] at shown
    exact ⟨property, (Members.lookup_eq_some_iff distinct).mpr shown, plain⟩
  · rw [upload] at shown
    exact ⟨.upload mark, (Members.lookup_eq_some_iff distinct).mpr shown,
      fun _ holds => holds.ne_upload mark rfl⟩

/-- A form fits the kind of its base document. -/
theorem FitsKind.toForm (h : FitsKind kind object) (definition : EntityDefinition)
    (other : kind ≠ .full)
    : FitsKind kind (definition.toForm mark id object) := by
  have names := definition.names_toForm mark id object
  refine ⟨names ▸ h.distinct, ?required, h.optional, fun full => absurd full other,
    fun other => names ▸ h.ordinary other, ?arrays⟩
  case required =>
    intro create
    obtain ⟨required, listed, lists⟩ := h.required create
    exact ⟨required, listed, lists.distinct, names ▸ lists.ordered, lists.ordinary,
      fun name member => definition.exists_property_toForm h.distinct (lists.plain name member)⟩
  case arrays =>
    intro name items member
    exact h.arrays name items (EntityDefinition.mem_of_mem_toForm member (by simp))

end Forms

/-- Every document is well formed down to its innermost objects. A form is a base document with
another identifier and uploads at its top level.
-/
theorem generate_wellFormed {view : View} {qualifier : Option String} {document : Document}
    (h : View.generate registry settings view model qualifier = .ok document)
    : WellFormed settings view document := by
  cases view with
  | base kind => exact wellFormed_of_generate_base h
  | form kind =>
      rw [generate_form, Except.bind_eq_ok_iff] at h
      obtain ⟨base, answered, h⟩ := h
      rw [Except.bind_eq_ok_iff] at h
      obtain ⟨definition, _, h⟩ := h
      obtain rfl := Except.ok.inj h
      have wellFormed := wellFormed_of_generate_base answered
      have inside {depth : Nat} {object : Document}
          (nested : Nested (depth + 1)
            (definition.toForm settings.fileMark
              (schemaId model.name kind.label qualifier) base) object)
          : Nested (depth + 1) base object :=
        nested.transfer fun _ => EntityDefinition.embeds_of_toForm
      refine ⟨rfl, fun nested => wellFormed.anonymous (inside nested), ?fits, ?uploads,
        ?bounded⟩
      case fits =>
        intro depth object nested
        cases depth with
        | zero =>
            cases nested
            exact (wellFormed.fits (.here base)).toForm definition (by cases kind <;> decide)
        | succ depth => exact wellFormed.fits (inside nested)
      case uploads =>
        intro depth object name mark nested member
        cases depth with
        | zero => exact ⟨rfl, kind, rfl⟩
        | succ depth =>
            obtain ⟨top, _⟩ := wellFormed.uploads (inside nested) member
            contradiction
      case bounded =>
        intro limit depth object limited nested
        cases depth with
        | zero => exact Nat.zero_le limit
        | succ depth => exact wellFormed.bounded limited (inside nested)

/-- A photograph keeps its image and when it was added. -/
def photographModel : Model :=
  {
    serial := 0,
    name := "Photograph",
    fields := .ofList
      [
        ("image", .scalar .file),
        ("added", .column { type := .logical .date, createDate := true })
      ]
  }

/-- An album is created together with its photographs. -/
def albumModel : Model :=
  {
    serial := 1,
    name := "Album",
    fields := .ofList
      [
        ("cover", .scalar .file),
        ("note", .column { type := .logical .string, nullable := true }),
        ("photographs",
          .relation
            { kind := .oneToMany, target := .name "Photograph", cascade := .only [.insert] })
      ]
  }

def photoAlbums : Registry :=
  .ofModels [photographModel, albumModel] (by decide)

/-- The form for a new album uploads the cover and is well formed down to the photographs. -/
theorem createAlbum_wellFormed
    : ∃ document,
        View.generate photoAlbums { maxDepth? := some 1 } (.form .create) albumModel none
          = .ok document
        ∧ WellFormed { maxDepth? := some 1 } (.form .create) document := by
  obtain ⟨document, answered⟩
      : ∃ document,
          View.generate photoAlbums { maxDepth? := some 1 } (.form .create) albumModel none
            = .ok document :=
    ⟨_, rfl⟩
  exact ⟨document, answered, generate_wellFormed answered⟩

end EntityViews
