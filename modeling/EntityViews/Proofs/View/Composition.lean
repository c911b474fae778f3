import EntityViews.Proofs.View.DepthLimits

/-! What a view is composed of.
A document shows the columns and the followed relations of the compiled model, each under its
own name. A relation embeds the very document that its target has in a view on its own.
-/

namespace EntityViews

variable {registry : Registry} {settings : ViewSettings} {kind : ViewKind} {model : Model}
  {definition : EntityDefinition}

namespace EntityDefinition

/-- The columns that a view shows: a full view all of them, others all but the generated ones.
-/
def shown (definition : EntityDefinition) : ViewKind → List (String × ColumnDescriptor)
  | .full => definition.columns.entries
  | .create | .update => definition.columns.entries.filter fun entry => !entry.2.isGenerated

theorem columnProperties_eq (definition : EntityDefinition) (kind : ViewKind)
    : definition.columnProperties kind
      = (definition.shown kind).map fun entry => (entry.1, entry.2.property) := by
  cases kind with
  | create | update => rfl
  | full => simp [columnProperties, shown, ViewKind.keeps]

theorem names_columnProperties (definition : EntityDefinition) (kind : ViewKind)
    : Members.names (definition.columnProperties kind)
      = Members.names (definition.shown kind) := by
  rw [columnProperties_eq]
  exact Members.names_map_values _ _

theorem names_shown_sublist (definition : EntityDefinition) (kind : ViewKind)
    : (Members.names (definition.shown kind)).Sublist definition.columns.names := by
  cases kind with
  | create | update => exact Members.names_filter_sublist _ _
  | full => exact List.Sublist.refl _

theorem names_followed_sublist (definition : EntityDefinition) (kind : ViewKind)
    : (Members.names (definition.followed kind)).Sublist definition.relations.names :=
  Members.names_filter_sublist _ _

end EntityDefinition

/-- Shown columns stand in order of declaration, behind the primary one. -/
theorem Model.shown_names_sublist (h : model.definition = .ok definition)
    : (Members.names (definition.shown kind)).Sublist (primaryColumn :: model.fields.names) :=
  (definition.names_shown_sublist kind).trans (column_names_sublist h)

/-- Followed relations stand in order of declaration. -/
theorem Model.followed_names_sublist (h : model.definition = .ok definition)
    : (Members.names (definition.followed kind)).Sublist model.fields.names :=
  (definition.names_followed_sublist kind).trans (relation_names_sublist h)

/-- No two shown columns or followed relations share a name. -/
theorem Model.nodup_names_shown_followed (h : model.definition = .ok definition)
    : (Members.names (definition.shown kind)
        ++ Members.names (definition.followed kind)).Nodup := by
  have columns := definition.names_shown_sublist kind
  have relations := definition.names_followed_sublist kind
  refine List.Nodup.append (columns.nodup definition.columns.distinct)
    (relations.nodup definition.relations.distinct) ?_
  intro name isColumn isRelation
  exact column_relation_names_disjoint h (columns.subset isColumn) (relations.subset isRelation)

/-- Properties of columns and of embedded relations replace none of each other. -/
theorem Model.document_properties (h : model.definition = .ok definition) (id? : Option String)
    {embedded : List (String × Property)}
    (named : Members.names embedded = Members.names (definition.followed kind))
    : (definition.document kind id? embedded).properties
      = definition.columnProperties kind ++ embedded := by
  refine Members.collapse_eq_self ?_
  rw [Members.names_append, definition.names_columnProperties, named]
  exact nodup_names_shown_followed h

/-- Embedding relations leaves their names and the order of these. -/
theorem names_of_embedded {unrollTarget : Model → Except Stop Document}
    {entries : List (String × RelationDescriptor)} {embedded : List (String × Property)}
    (h : entries.mapM (embedTarget registry unrollTarget) = .ok embedded)
    : Members.names embedded = Members.names entries := by
  have kept
      : List.Forall₂ (fun entry property => entry.1 = property.1) entries embedded := by
    refine List.Forall₂.imp ?_ (List.mapM_eq_ok_iff.mp h)
    intro entry property succeeds
    obtain ⟨_, _, _, _, rfl⟩ := embedTarget_eq_ok_iff.mp succeeds
    rfl
  have same : List.Forall₂ (· = ·) (Members.names entries) (Members.names embedded) :=
    List.forall₂_map_left_iff.mpr (List.forall₂_map_right_iff.mpr kept)
  rw [List.forall₂_eq_eq_eq] at same
  exact same.symm

/-- What a model unrolls to over some of the levels of a view is its view on its own, since
the further levels change nothing.
-/
theorem generate_of_unroll {levels : Nat} {body : Document}
    (le : levels ≤ levelsFor registry settings.maxDepth?)
    (h : unroll registry kind levels model = .ok body) (qualifier : Option String)
    : View.generate registry settings (.base kind) model qualifier
      = .ok (body.withId (schemaId model.name kind.label qualifier)) := by
  refine generate_eq_ok_iff.mpr ⟨body, ?_, rfl⟩
  rw [unroll_of_le le (not_runsOut_of_ok h), h]

/-- The relation has a target whose view on its own, under the same settings, is the property
less its identifier, in an array if the relation leads to many.
-/
def EmbedsOwnView (registry : Registry) (settings : ViewSettings) (kind : ViewKind)
    (relation : RelationDescriptor) (property : Property)
    : Prop :=
  ∃ target nested,
    registry.get relation.target = .ok target
    ∧ View.generate registry settings (.base kind) target none = .ok nested
    ∧ property
      = if relation.kind.isToMany then .array (.embedded nested.withoutId)
        else .embedded nested.withoutId

/-- A relation embedded one level down embeds the view of its target. -/
theorem embedsOwnView_of_embedTarget {levels : Nat} {entry : String × RelationDescriptor}
    {property : String × Property} (le : levels ≤ levelsFor registry settings.maxDepth?)
    (h : embedTarget registry (unroll registry kind levels) entry = .ok property)
    : property.1 = entry.1 ∧ EmbedsOwnView registry settings kind entry.2 property.2 := by
  obtain ⟨target, body, found, unrolled, rfl⟩ := embedTarget_eq_ok_iff.mp h
  exact ⟨rfl, target, _, found, generate_of_unroll le unrolled none, rfl⟩

/-- The document is the view of a model with the given definition: it has one property for each
shown column and followed relation, and no other.
-/
structure Describes (registry : Registry) (settings : ViewSettings) (kind : ViewKind)
    (model : Model) (qualifier : Option String) (definition : EntityDefinition)
    (document : Document)
    : Prop where
  identifier : document.id? = some (schemaId model.name kind.label qualifier)
  names
    : Members.names document.properties
      = Members.names (definition.shown kind) ++ Members.names (definition.followed kind)
  distinct : (Members.names document.properties).Nodup
  columnOrder
    : (Members.names (definition.shown kind)).Sublist (primaryColumn :: model.fields.names)
  relationOrder : (Members.names (definition.followed kind)).Sublist model.fields.names
  column
    : ∀ name column,
        (name, column) ∈ definition.shown kind → document.property? name = some column.property
  relation
    : ∀ name relation,
        (name, relation) ∈ definition.followed kind
        → ∃ property,
            document.property? name = some property
            ∧ EmbedsOwnView registry settings kind relation property
  required
    : document.required? = if kind = .create then some definition.requiredColumns else none

/-- A view that has a document describes the compiled model, and each followed relation embeds
what the view of its target comes to on its own, whatever stands above it.
-/
theorem generate_describes {qualifier : Option String} {document : Document}
    (h : View.generate registry settings (.base kind) model qualifier = .ok document)
    : ∃ definition,
        model.definition = .ok definition
        ∧ Describes registry settings kind model qualifier definition document := by
  obtain ⟨body, unrolled, rfl⟩ := generate_eq_ok_iff.mp h
  obtain ⟨levels, total⟩ : ∃ levels, levelsFor registry settings.maxDepth? = levels + 1 := by
    cases settings.maxDepth? <;> exact ⟨_, rfl⟩
  have below : levels ≤ levelsFor registry settings.maxDepth? := by omega
  rw [total] at unrolled
  cases compiles : model.definition with
  | error problem => simp [unroll_refused compiles] at unrolled
  | ok definition =>
      rw [unroll_compiled compiles, Except.map_eq_ok_iff] at unrolled
      obtain ⟨embedded, succeeded, rfl⟩ := unrolled
      rw [Except.mapError_eq_ok_iff] at succeeded
      have named := names_of_embedded succeeded
      have properties := Model.document_properties compiles none named
      have names
          : Members.names (definition.document kind none embedded).properties
            = Members.names (definition.shown kind)
              ++ Members.names (definition.followed kind) := by
        rw [properties, Members.names_append, definition.names_columnProperties, named]
      have distinct : (Members.names (definition.document kind none embedded).properties).Nodup :=
        names ▸ Model.nodup_names_shown_followed compiles
      have lookup {name : String} {property : Property}
          (member : (name, property) ∈ definition.columnProperties kind ++ embedded)
          : (definition.document kind none embedded).property? name = some property :=
        (Members.lookup_eq_some_iff distinct).mpr (properties ▸ member)
      -- Only the identifier tells the document from the body of the unrolling.
      refine ⟨definition, rfl, rfl, names, distinct, Model.shown_names_sublist compiles,
        Model.followed_names_sublist compiles, ?columns, ?relations, rfl⟩
      case columns =>
        intro name column isShown
        refine lookup (List.mem_append_left _ ?_)
        rw [definition.columnProperties_eq]
        exact List.mem_map.mpr ⟨(name, column), isShown, rfl⟩
      case relations =>
        intro name relation isFollowed
        obtain ⟨⟨same, property⟩, member, embeds⟩ :=
          List.exists_mem_of_mapM_eq_ok succeeded isFollowed
        obtain ⟨rfl, own⟩ := embedsOwnView_of_embedTarget below embeds
        exact ⟨property, lookup (List.mem_append_right _ member), own⟩

/-- Creating a library has a document, and it describes the library. -/
theorem createLibrary_describes
    : ∃ document,
        View.generate bookTrade {} (.base .create) libraryModel (some "v2") = .ok document
        ∧ ∃ definition,
            libraryModel.definition = .ok definition
            ∧ Describes bookTrade {} .create libraryModel (some "v2") definition document :=
  ⟨_, rfl, generate_describes rfl⟩

end EntityViews
