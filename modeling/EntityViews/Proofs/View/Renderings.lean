import EntityViews.Proofs.Json.Collapsed
import EntityViews.View.Document

/-! The two renderings of a document.
Put together as a value, a document is what is written of it with repeated names collapsed. Only
an upload can repeat a name, if its mark is that of the type beside it.
-/

namespace EntityViews

/-- The property is an upload of that mark or holds one, however deep. -/
inductive Property.Marks (mark : String) : Property → Prop
  | upload : Marks mark (.upload mark)
  | array {items : Property} (h : Marks mark items) : Marks mark (.array items)
  | embedded {object : ObjectOf Property} {name : String} {property : Property}
    (member : (name, property) ∈ object.properties) (h : Marks mark property)
    : Marks mark (.embedded object)

/-- Some property of the document is an upload of that mark or holds one. -/
def ObjectOf.Marks (mark : String) (document : Document) : Prop :=
  ∃ name property, (name, property) ∈ document.properties ∧ property.Marks mark

/-- No object in the property has two properties of one name. -/
inductive Property.Distinct : Property → Prop
  | scalar (type : JsonType) : Distinct (.scalar type)
  | freeForm : Distinct .freeForm
  | embedded {object : ObjectOf Property} (names : (Members.names object.properties).Nodup)
    (each : ∀ entry ∈ object.properties, Distinct entry.2)
    : Distinct (.embedded object)
  | array {items : Property} (h : Distinct items) : Distinct (.array items)
  | upload (mark : String) : Distinct (.upload mark)

/-- No object in the document has two properties of one name. -/
structure ObjectOf.Distinct (document : Document) : Prop where
  names : (Members.names document.properties).Nodup
  each : ∀ entry ∈ document.properties, entry.2.Distinct

section Inside

variable {mark other : String} {items : Property} {object : ObjectOf Property}

theorem Property.not_marks_scalar (type : JsonType) : ¬ (scalar type).Marks mark := nofun

theorem Property.not_marks_freeForm : ¬ freeForm.Marks mark := nofun

theorem Property.marks_upload_iff : (upload other).Marks mark ↔ other = mark := by
  constructor
  · rintro ⟨⟩
    rfl
  · rintro rfl
    exact .upload

theorem Property.marks_array_iff : (array items).Marks mark ↔ items.Marks mark := by
  constructor
  · rintro ⟨⟩
    assumption
  · exact .array

theorem Property.marks_embedded_iff : (embedded object).Marks mark ↔ object.Marks mark := by
  constructor
  · rintro (_ | _ | ⟨member, marks⟩)
    exact ⟨_, _, member, marks⟩
  · rintro ⟨name, property, member, marks⟩
    exact .embedded member marks

theorem Property.distinct_array_iff : (array items).Distinct ↔ items.Distinct := by
  constructor
  · rintro ⟨⟩
    assumption
  · exact .array

theorem Property.distinct_embedded_iff : (embedded object).Distinct ↔ object.Distinct := by
  constructor
  · rintro ⟨⟩
    exact ⟨‹_›, ‹_›⟩
  · rintro ⟨names, each⟩
    exact .embedded names each

end Inside

/-- What holds of a property if it holds of all directly inside holds of all properties. -/
@[elab_as_elim]
theorem Property.induct {P : Property → Prop} (scalar : ∀ type, P (.scalar type))
    (freeForm : P .freeForm)
    (embedded
      : ∀ object : ObjectOf Property,
          (∀ entry ∈ object.properties, P entry.2) → P (.embedded object))
    (array : ∀ items, P items → P (.array items)) (upload : ∀ mark, P (.upload mark))
    (property : Property)
    : P property :=
  @Property.rec P (fun object => ∀ entry ∈ object.properties, P entry.2)
    (fun properties => ∀ entry ∈ properties, P entry.2) (fun entry => P entry.2)
    scalar freeForm embedded array upload (fun _ _ _ _ h => h)
    (by simp) (fun _ _ first others => List.forall_mem_cons.mpr ⟨first, others⟩)
    (fun _ _ h => h) property

theorem propertiesToJson_eq_map (properties : List (String × Property))
    : propertiesToJson properties
      = properties.map fun entry => (entry.1, entry.2.toJson) := by
  induction properties with
  | nil => rfl
  | cons entry rest ih => rw [propertiesToJson, ih, List.map_cons]

theorem propertiesToValue_eq_map (properties : List (String × Property))
    : propertiesToValue properties
      = properties.map fun entry => (entry.1, entry.2.toValue) := by
  induction properties with
  | nil => rfl
  | cons entry rest ih => rw [propertiesToValue, ih, List.map_cons]

/-- The members of an object schema with the given properties. -/
def ObjectOf.membersWith (document : Document) (properties : Json) : Members Json :=
  Json.given "$id" (document.id?.map Json.string)
    ++ [document.type.member, ("properties", properties)]
    ++ Json.given "required" (document.required?.map Json.strings)

theorem ObjectOf.toJson_eq (document : Document)
    : document.toJson
      = .object (document.membersWith (.object (propertiesToJson document.properties))) := by
  rw [toJson]
  rfl

theorem ObjectOf.toValue_eq (document : Document)
    : document.toValue
      = .object (document.membersWith
          (.object (Members.collapse (propertiesToValue document.properties)))) := by
  rw [toValue]
  rfl

theorem ObjectOf.nodup_names_membersWith (document : Document) (properties : Json)
    : (Members.names (document.membersWith properties)).Nodup := by
  obtain ⟨id?, _, _, required?⟩ := document
  cases id? <;> cases required? <;> simp [membersWith, Json.given, JsonType.member]

/-- Nothing but the properties can repeat a name. -/
theorem ObjectOf.distinct_membersWith_iff {document : Document} {properties : Json}
    : (Json.object (document.membersWith properties)).Distinct ↔ properties.Distinct := by
  constructor
  · intro distinct
    have each := (Json.distinct_object_iff.mp distinct).2
    exact each ("properties", properties) (by simp [membersWith])
  · intro distinct
    have members : Json.Among ["$id", "type", "properties", "required"]
        (document.membersWith properties) :=
      (Json.Among.givenBy .string document.id?)
        |>.append ((Json.Among.one (.string _)).append (.one distinct))
        |>.append (.givenBy Json.distinct_strings document.required?)
    exact members.distinct (by decide)

theorem ObjectOf.collapsedMembers_membersWith (document : Document) (properties : Json)
    : Json.collapsedMembers (document.membersWith properties)
      = document.membersWith properties.collapsed := by
  obtain ⟨id?, _, _, required?⟩ := document
  cases id? <;> cases required? <;>
    simp [membersWith, Json.given, JsonType.member, Json.collapsedMembers, Json.collapsed,
      Json.collapsed_of_distinct (Json.distinct_strings _)]

/-- The value of an object has the values of its properties for what is written of them. -/
theorem ObjectOf.toValue_eq_collapsed {document : Document}
    (h : ∀ entry ∈ document.properties, entry.2.toValue = entry.2.toJson.collapsed)
    : document.toValue = document.toJson.collapsed := by
  have values
      : propertiesToValue document.properties
        = Json.collapsedMembers (propertiesToJson document.properties) := by
    rw [propertiesToValue_eq_map, propertiesToJson_eq_map, Json.collapsedMembers_eq_map,
      List.map_map]
    exact List.map_congr_left fun entry member => congrArg (entry.1, ·) (h entry member)
  rw [toValue_eq, toJson_eq, Json.collapsed, collapsedMembers_membersWith, Json.collapsed,
    values, Members.collapse_eq_self (document.nodup_names_membersWith _)]

/-- A property put together as a value is what is written of it, collapsed. -/
theorem Property.toValue_eq_collapsed (property : Property)
    : property.toValue = property.toJson.collapsed := by
  induction property using induct with
  | scalar type => rfl
  | freeForm => rfl
  | embedded object ih => exact ObjectOf.toValue_eq_collapsed ih
  | array items ih =>
      rw [toValue, toJson, ih]
      rfl
  | upload mark => rfl

/-- What is written of an object repeats a name if its properties do, or one of them does. -/
theorem ObjectOf.distinct_toJson_iff {document : Document}
    (h
      : ∀ entry ∈ document.properties,
          entry.2.toJson.Distinct ↔ entry.2.Distinct ∧ ¬ entry.2.Marks "type")
    : document.toJson.Distinct ↔ document.Distinct ∧ ¬ document.Marks "type" := by
  rw [toJson_eq, distinct_membersWith_iff, propertiesToJson_eq_map, Json.distinct_object_iff,
    Members.names_map_values, List.forall_mem_map]
  constructor
  · rintro ⟨names, each⟩
    refine ⟨⟨names, fun entry member => ((h entry member).mp (each entry member)).1⟩, ?_⟩
    rintro ⟨name, property, member, marks⟩
    exact ((h _ member).mp (each _ member)).2 marks
  · rintro ⟨distinct, unmarked⟩
    refine ⟨distinct.names, fun entry member => (h entry member).mpr ?_⟩
    exact ⟨distinct.each entry member, fun marks => unmarked ⟨_, _, member, marks⟩⟩

/-- What is written of a property repeats a name just for an upload whose mark is that of the
type, and for properties of one name.
-/
theorem Property.distinct_toJson_iff (property : Property)
    : property.toJson.Distinct ↔ property.Distinct ∧ ¬ property.Marks "type" := by
  induction property using induct with
  | scalar type =>
      refine iff_of_true ?_ ⟨.scalar type, not_marks_scalar type⟩
      simp [toJson, Json.distinct_object_iff, JsonType.member, Json.Distinct.string]
  | freeForm =>
      refine iff_of_true ?_ ⟨.freeForm, not_marks_freeForm⟩
      simp [toJson, Json.distinct_object_iff, JsonType.member, Json.Distinct.string,
        Json.Distinct.boolean]
  | embedded object ih =>
      rw [distinct_embedded_iff, marks_embedded_iff]
      exact ObjectOf.distinct_toJson_iff ih
  | array items ih =>
      rw [distinct_array_iff, marks_array_iff, ← ih]
      simp [toJson, Json.distinct_object_iff, JsonType.member, Json.Distinct.string]
  | upload mark =>
      rw [marks_upload_iff, and_iff_right (.upload mark)]
      simp [toJson, Json.distinct_object_iff, JsonType.member, uploadMember,
        Json.Distinct.string, eq_comm]

/-- The text of a document is that of its value exactly if no upload in it has the mark `type`.
That is the one case in which an object of the text repeats a name. The value repeats none, since
a later member then stands in the place of the first.
-/
theorem renderings_agree_iff {document : Document} (distinct : document.Distinct)
    : (document.toJson.compact = document.toValue.compact ↔ ¬ document.Marks "type")
      ∧ (¬ document.toJson.Distinct ↔ document.Marks "type")
      ∧ document.toValue = document.toJson.collapsed
      ∧ document.toValue.Distinct
      ∧ ∀ members : Members Json, Members.KeepsLast members members.collapse := by
  have value : document.toValue = document.toJson.collapsed :=
    ObjectOf.toValue_eq_collapsed fun entry _ => entry.2.toValue_eq_collapsed
  have repeats : document.toJson.Distinct ↔ ¬ document.Marks "type" :=
    (ObjectOf.distinct_toJson_iff fun entry _ => entry.2.distinct_toJson_iff).trans
      (and_iff_right distinct)
  refine ⟨?_, ?_, value, value ▸ Json.distinct_collapsed _, Members.keepsLast_collapse⟩
  · rw [value, eq_comm, Json.compact_collapsed_eq_iff, repeats]
  · rw [repeats, not_not]

/-- A gallery whose rooms each have a plan to upload. -/
def galleryDocument (mark : String) : Document :=
  {
    id? := some "Gallery",
    properties := [
      ("title", .scalar .string),
      ("rooms",
        .array
          (.embedded
            {
              id? := none,
              properties := [("plan", .upload mark), ("labels", .freeForm)],
              required? := none
            }))
    ],
    required? := some ["title"]
  }

theorem distinct_galleryDocument (mark : String) : (galleryDocument mark).Distinct := by
  refine ⟨(by decide : ["title", "rooms"].Nodup), ?_⟩
  refine List.forall_mem_cons.mpr ⟨.scalar _, List.forall_mem_singleton.mpr (.array ?_)⟩
  refine .embedded (by decide : ["plan", "labels"].Nodup) ?_
  exact List.forall_mem_cons.mpr ⟨.upload _, List.forall_mem_singleton.mpr .freeForm⟩

theorem marks_galleryDocument_iff {mark other : String}
    : (galleryDocument mark).Marks other ↔ mark = other := by
  simp [galleryDocument, ObjectOf.Marks, Property.not_marks_scalar, Property.not_marks_freeForm,
    Property.marks_array_iff, Property.marks_embedded_iff, Property.marks_upload_iff,
    or_and_right, exists_or]

/-- With a mark of its own the gallery has one text, with the mark `type` it has two. -/
theorem gallery_renderings
    : (galleryDocument "customSwaggerProps").toJson.compact
        = (galleryDocument "customSwaggerProps").toValue.compact
      ∧ (galleryDocument "type").toJson.compact ≠ (galleryDocument "type").toValue.compact
      ∧ ¬ (galleryDocument "type").toJson.Distinct := by
  refine ⟨?_, ?_, ?_⟩
  · refine (renderings_agree_iff (distinct_galleryDocument _)).1.mpr ?_
    exact fun marks => absurd (marks_galleryDocument_iff.mp marks) (by decide)
  · intro same
    exact (renderings_agree_iff (distinct_galleryDocument "type")).1.mp same
      (marks_galleryDocument_iff.mpr rfl)
  · exact (renderings_agree_iff (distinct_galleryDocument "type")).2.1.mpr
      (marks_galleryDocument_iff.mpr rfl)

end EntityViews
