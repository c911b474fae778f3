import EntityViews.Proofs.View.Composition

/-! Objects inside documents.
An object embedded in the body of a view is itself the body of a view of some model, fewer levels
deep. So what holds of the bodies of views holds of all objects of a document.
-/

namespace EntityViews

/-- The property holds the object, by itself or in an array. -/
inductive Property.Holds : Property → Document → Prop
  | embedded (object : Document) : Holds (.embedded object) object
  | array {items : Property} {object : Document} (holds : Holds items object)
    : Holds (.array items) object

/-- Some property of the outer object holds the inner one. -/
def Embeds (outer inner : Document) : Prop :=
  ∃ name property, (name, property) ∈ outer.properties ∧ property.Holds inner

/-- The inner object stands so many levels below the outer one. -/
inductive Nested : Nat → Document → Document → Prop
  | here (object : Document) : Nested 0 object object
  | inside {depth : Nat} {outer middle inner : Document} (embeds : Embeds outer middle)
    (rest : Nested depth middle inner)
    : Nested (depth + 1) outer inner

/-- What stands below an object stands below any other that embeds as much. -/
theorem Nested.transfer {depth : Nat} {outer other inner : Document}
    (h : Nested (depth + 1) outer inner)
    (embeds : ∀ middle, Embeds outer middle → Embeds other middle)
    : Nested (depth + 1) other inner := by
  cases h with
  | inside first rest => exact .inside (embeds _ first) rest

variable {registry : Registry} {kind : ViewKind} {model : Model}
  {definition : EntityDefinition} {object : Document}

/-- A column has a property with nothing inside. -/
theorem ColumnDescriptor.property_cases (column : ColumnDescriptor)
    : column.property = .freeForm ∨ ∃ type, column.property = .scalar type := by
  unfold property
  split
  · exact Or.inl rfl
  · exact Or.inr ⟨_, rfl⟩

theorem ColumnDescriptor.not_holds_property (column : ColumnDescriptor)
    : ¬ column.property.Holds object := by
  rcases column.property_cases with free | ⟨type, scalar⟩
  · rw [free]
    rintro ⟨⟩
  · rw [scalar]
    rintro ⟨⟩

/-- A followed relation holds the document of its target less the identifier. -/
theorem RelationDescriptor.holds_property_iff {relation : RelationDescriptor}
    {target : Document}
    : (relation.property target).Holds object ↔ object = target.withoutId := by
  unfold property
  split
  · constructor
    · rintro (_ | ⟨⟨⟩⟩)
      rfl
    · rintro rfl
      exact .array (.embedded _)
  · constructor
    · rintro ⟨⟩
      rfl
    · rintro rfl
      exact .embedded _

/-- The property of a followed relation is no upload, and an array of embedded objects if it is
an array.
-/
theorem RelationDescriptor.property_cases (relation : RelationDescriptor) (target : Document)
    : ∃ inner,
        relation.property target = .embedded inner
        ∨ relation.property target = .array (.embedded inner) := by
  unfold property
  split
  · exact ⟨_, Or.inr rfl⟩
  · exact ⟨_, Or.inl rfl⟩

/-- A body is what a compiled model shows of its columns and of its followed relations, whose
targets have bodies over the given levels.
-/
structure IsBody (registry : Registry) (kind : ViewKind) (levels : Nat) (model : Model)
    (definition : EntityDefinition) (embedded : List (String × Property)) (body : Document)
    : Prop where
  compiles : model.definition = .ok definition
  succeeds
    : (definition.followed kind).mapM (embedTarget registry (unroll registry kind levels))
      = .ok embedded
  shows : body = definition.document kind none embedded

theorem exists_isBody_of_unroll {levels : Nat} {body : Document}
    (h : unroll registry kind levels model = .ok body)
    : ∃ fewer definition embedded,
        levels = fewer + 1 ∧ IsBody registry kind fewer model definition embedded body := by
  cases levels with
  | zero => contradiction
  | succ fewer =>
      cases compiles : model.definition with
      | error problem =>
          rw [unroll_refused compiles] at h
          contradiction
      | ok definition =>
          rw [unroll_compiled compiles, Except.map_eq_ok_iff] at h
          obtain ⟨embedded, succeeded, rfl⟩ := h
          rw [Except.mapError_eq_ok_iff] at succeeded
          exact ⟨fewer, definition, embedded, rfl, compiles, succeeded, rfl⟩

namespace IsBody

variable {levels : Nat} {embedded : List (String × Property)} {body : Document}

/-- The properties of a body are those of its columns and then those of its relations. -/
theorem properties (h : IsBody registry kind levels model definition embedded body)
    : body.properties = definition.columnProperties kind ++ embedded := by
  rw [h.shows]
  exact Model.document_properties h.compiles none (names_of_embedded h.succeeds)

theorem names (h : IsBody registry kind levels model definition embedded body)
    : Members.names body.properties
      = Members.names (definition.shown kind) ++ Members.names (definition.followed kind) := by
  rw [h.properties, Members.names_append, definition.names_columnProperties,
    names_of_embedded h.succeeds]

theorem id?_eq_none (h : IsBody registry kind levels model definition embedded body)
    : body.id? = none := by
  rw [h.shows]
  rfl

theorem nodup_names (h : IsBody registry kind levels model definition embedded body)
    : (Members.names body.properties).Nodup :=
  h.names ▸ Model.nodup_names_shown_followed h.compiles

/-- A property of a body is that of a column, or that of a relation over the body of its target.
-/
theorem property_cases (h : IsBody registry kind levels model definition embedded body)
    {name : String} {property : Property} (member : (name, property) ∈ body.properties)
    : (∃ column : ColumnDescriptor, property = column.property)
      ∨ ∃ (relation : RelationDescriptor) (target : Model) (inner : Document),
          unroll registry kind levels target = .ok inner
          ∧ property = relation.property inner := by
  rw [h.properties, List.mem_append, definition.columnProperties_eq] at member
  rcases member with column | relation
  · obtain ⟨⟨_, column⟩, _, same⟩ := List.mem_map.mp column
    exact Or.inl ⟨column, (Prod.mk.inj same).2.symm⟩
  · obtain ⟨entry, _, embeds⟩ := List.exists_entry_of_mapM_eq_ok h.succeeds relation
    obtain ⟨target, inner, _, unrolled, same⟩ := embedTarget_eq_ok_iff.mp embeds
    exact Or.inr ⟨entry.2, target, inner, unrolled, (Prod.mk.inj same).2⟩

end IsBody

/-- An object embedded in a body is the body of a target one level further down. -/
theorem exists_unroll_of_embeds {levels : Nat} {body inner : Document}
    (h : unroll registry kind levels model = .ok body) (embeds : Embeds body inner)
    : ∃ fewer target, levels = fewer + 1 ∧ unroll registry kind fewer target = .ok inner := by
  obtain ⟨fewer, _, _, total, isBody⟩ := exists_isBody_of_unroll h
  obtain ⟨name, property, member, holds⟩ := embeds
  rcases isBody.property_cases member with
    ⟨column, rfl⟩ | ⟨relation, target, below, unrolled, rfl⟩
  · exact absurd holds column.not_holds_property
  · obtain rfl := RelationDescriptor.holds_property_iff.mp holds
    obtain ⟨_, _, _, _, isBelow⟩ := exists_isBody_of_unroll unrolled
    have plain : below.withoutId = below := by
      cases below
      simpa [ObjectOf.withoutId] using isBelow.id?_eq_none.symm
    exact ⟨fewer, target, total, plain ▸ unrolled⟩

/-- An object that stands some levels below a body is the body of a model over that many levels
less, by induction on how it is nested.
-/
theorem exists_isBody_of_nested {levels depth : Nat} {body inner : Document}
    (h : unroll registry kind levels model = .ok body) (nested : Nested depth body inner)
    : ∃ fewer target definition embedded,
        levels = depth + fewer + 1
        ∧ IsBody registry kind fewer target definition embedded inner := by
  induction nested generalizing levels model with
  | here =>
      obtain ⟨fewer, definition, embedded, rfl, isBody⟩ := exists_isBody_of_unroll h
      exact ⟨fewer, model, definition, embedded, by omega, isBody⟩
  | inside embeds _ ih =>
      obtain ⟨fewer, target, rfl, unrolled⟩ := exists_unroll_of_embeds h embeds
      obtain ⟨rest, met, definition, embedded, rfl, isBody⟩ := ih unrolled
      exact ⟨rest, met, definition, embedded, by omega, isBody⟩

end EntityViews
