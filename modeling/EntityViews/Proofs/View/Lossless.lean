import EntityViews.Proofs.Json.Texts
import EntityViews.Proofs.View.Renderings
import EntityViews.Proofs.View.WellFormed

/-! Documents told by their renderings.
Each kind of property has a value of its own shape, whatever the mark of an upload. So a document
can be told from its value, and from its texts, down to the order of the properties.
-/

namespace EntityViews

theorem JsonType.name_inj {type other : JsonType} : type.name = other.name ↔ type = other := by
  cases type <;> cases other <;> decide

theorem Json.strings_inj {values others : List String}
    : Json.strings values = Json.strings others ↔ values = others := by
  have distinct : Function.Injective Json.string := fun _ _ => Json.string.inj
  rw [strings, strings, Json.array.injEq, distinct.list_map.eq_iff]

/-- The members of an object schema tell all that it says, and its properties. -/
theorem ObjectOf.membersWith_inj {document other : Document} {properties further : Json}
    (same : document.membersWith properties = other.membersWith further)
    : document.id? = other.id?
      ∧ document.type = other.type
      ∧ document.required? = other.required?
      ∧ properties = further := by
  obtain ⟨id?, type, _, required?⟩ := document
  obtain ⟨another, sort, _, others⟩ := other
  cases id? <;> cases another <;> cases required? <;> cases others <;>
    simp_all [membersWith, Json.given, JsonType.member, JsonType.name_inj, Json.strings_inj]

theorem ObjectOf.lookup_membersWith (document : Document) (properties : Json)
    : (document.membersWith properties).lookup "properties" = some properties := by
  obtain ⟨id?, _, _, required?⟩ := document
  cases id? <;> rfl

namespace Property

variable {property : Property}

/-- A mark called `type` stands in the place of the type, any other behind it. -/
theorem toValue_upload (mark : String)
    : (upload mark).toValue
      = .object
          (if mark = "type" then [uploadMember "type"]
          else [JsonType.object.member, uploadMember mark]) := by
  by_cases h : mark = "type"
  · subst h
    rfl
  · have differs : "type" ≠ mark := Ne.symm h
    simp [toValue, Members.collapse, Members.put, JsonType.member, uploadMember, h, differs]

theorem toValue_embedded (object : Document)
    : (embedded object).toValue
      = .object (object.membersWith
          (.object (Members.collapse (propertiesToValue object.properties)))) := by
  rw [toValue, ObjectOf.toValue_eq]

/-- Every property has an object for its value. -/
theorem exists_toValue_eq_object (property : Property)
    : ∃ members, property.toValue = .object members := by
  cases property with
  | embedded object => exact ⟨_, toValue_embedded object⟩
  | scalar | freeForm | array | upload => exact ⟨_, rfl⟩

/-- Properties have objects for their values, so no property is called the type `file`. -/
theorem collapse_propertiesToValue_ne (properties : List (String × Property))
    : Members.collapse (propertiesToValue properties) ≠ [("type", .string "file")] := by
  intro same
  have member : ("type", Json.string "file") ∈ propertiesToValue properties :=
    Members.collapse_subset _ (same ▸ List.mem_singleton_self _)
  rw [propertiesToValue_eq_map] at member
  obtain ⟨entry, _, shown⟩ := List.mem_map.mp member
  obtain ⟨members, isObject⟩ := entry.2.exists_toValue_eq_object
  rw [isObject] at shown
  simp at shown

/-- What has no properties among its members is no embedded object. An upload may be marked so, but
what stands there is no list of properties.
-/
theorem toValue_ne_embedded (other : ∀ inner, property ≠ embedded inner) (object : Document)
    : property.toValue ≠ (embedded object).toValue := by
  intro same
  have listed {members : Members Json} (h : property.toValue = .object members)
      : members.lookup "properties"
        = some (.object (Members.collapse (propertiesToValue object.properties))) := by
    rw [same, toValue_embedded] at h
    rw [← Json.object.inj h, ObjectOf.lookup_membersWith]
  cases property with
  | scalar | freeForm | array =>
      have shown := listed rfl
      simp [JsonType.member, Members.lookup_cons_eq] at shown
  | embedded inner => exact other inner rfl
  | upload mark =>
      have shown := listed (toValue_upload mark)
      by_cases isProperties : mark = "properties"
      · subst isProperties
        have file := Json.object.inj (Option.some.inj shown)
        exact collapse_propertiesToValue_ne _ file.symm
      · have differs : "properties" ≠ mark := Ne.symm isProperties
        rw [apply_ite (List.lookup "properties")] at shown
        simp [JsonType.member, uploadMember, Members.lookup_cons_eq, differs] at shown

/-- An upload is shown like nothing else, whatever its mark. -/
theorem toValue_ne_upload (other : ∀ another, property ≠ upload another) (mark : String)
    : property.toValue ≠ (upload mark).toValue := by
  rw [toValue_upload]
  cases property with
  | scalar type => split <;> simp [toValue, JsonType.member, uploadMember]
  | freeForm => split <;> simp [toValue, JsonType.member, uploadMember]
  | embedded object =>
      rw [← toValue_upload]
      exact (toValue_ne_embedded (fun _ => Property.noConfusion) object).symm
  | array items => split <;> simp [toValue, JsonType.member, uploadMember, JsonType.name]
  | upload another => exact absurd rfl (other another)

theorem toValue_upload_inj {mark another : String}
    : (upload mark).toValue = (upload another).toValue ↔ mark = another := by
  constructor
  · intro same
    rw [toValue_upload, toValue_upload] at same
    split at same <;> split at same <;> simp_all [JsonType.member, uploadMember]
  · exact congrArg fun mark => (upload mark).toValue

end Property

/-- Lists are told by images that tell their members, by induction along both. -/
theorem List.eq_of_map_eq {α β : Type} {f : α → β} {first second : List α}
    (each : ∀ a ∈ first, ∀ b ∈ second, f a = f b → a = b)
    (same : first.map f = second.map f)
    : first = second := by
  induction first generalizing second with
  | nil => exact (List.map_eq_nil_iff.mp same.symm).symm
  | cons a first ih =>
      cases second with
      | nil => exact absurd same (List.cons_ne_nil _ _)
      | cons b second =>
          obtain ⟨head, tail⟩ := List.cons.inj same
          have heads : a = b := each a List.mem_cons_self b List.mem_cons_self head
          have tails : first = second :=
            ih (fun a member b known =>
              each a (List.mem_cons_of_mem _ member) b (List.mem_cons_of_mem _ known)) tail
          rw [heads, tails]

/-- Where no name repeats, the values of the properties stand as the properties do. -/
theorem collapse_propertiesToValue {properties : List (String × Property)}
    (distinct : (Members.names properties).Nodup)
    : Members.collapse (propertiesToValue properties)
      = properties.map fun entry => (entry.1, entry.2.toValue) := by
  rw [propertiesToValue_eq_map]
  exact Members.collapse_eq_self (by rwa [Members.names_map_values])

/-- Objects are told by their values if their properties are. -/
theorem ObjectOf.eq_of_toValue_eq {document other : Document} (distinct : document.Distinct)
    (further : other.Distinct)
    (each
      : ∀ entry ∈ document.properties,
          ∀ another ∈ other.properties,
            entry.2.toValue = another.2.toValue → entry.2 = another.2)
    (same : document.toValue = other.toValue)
    : document = other := by
  rw [toValue_eq, toValue_eq] at same
  obtain ⟨id, type, required, values⟩ := membersWith_inj (Json.object.inj same)
  rw [collapse_propertiesToValue distinct.names, collapse_propertiesToValue further.names]
    at values
  have properties : document.properties = other.properties := by
    refine List.eq_of_map_eq (fun entry member another known shown => ?_) (Json.object.inj values)
    obtain ⟨name, value⟩ := Prod.mk.inj shown
    exact Prod.ext name (each entry member another known value)
  obtain ⟨_, _, _, _⟩ := document
  obtain ⟨_, _, _, _⟩ := other
  exact ObjectOf.mk.injEq .. ▸ ⟨id, type, properties, required⟩

/-- Properties are told by their values, by induction over the first of them: the kinds have values
of different shapes, so both are of one kind.
-/
theorem Property.eq_of_toValue_eq {property other : Property} (distinct : property.Distinct)
    (further : other.Distinct) (same : property.toValue = other.toValue)
    : property = other := by
  induction property using induct generalizing other with
  | scalar type =>
      cases other with
      | scalar another =>
          have types : type = another := by
            simpa [toValue, JsonType.member, JsonType.name_inj] using same
          rw [types]
      | freeForm | array => simp [toValue, JsonType.member] at same
      | embedded object =>
          exact absurd same (toValue_ne_embedded (fun _ => Property.noConfusion) object)
      | upload mark => exact absurd same (toValue_ne_upload (fun _ => Property.noConfusion) mark)
  | freeForm =>
      cases other with
      | freeForm => rfl
      | scalar | array => simp [toValue, JsonType.member] at same
      | embedded object =>
          exact absurd same (toValue_ne_embedded (fun _ => Property.noConfusion) object)
      | upload mark => exact absurd same (toValue_ne_upload (fun _ => Property.noConfusion) mark)
  | embedded object ih =>
      by_cases h : ∃ inner, other = embedded inner
      · obtain ⟨inner, rfl⟩ := h
        rw [distinct_embedded_iff] at distinct further
        exact congrArg embedded (ObjectOf.eq_of_toValue_eq distinct further
          (fun entry member another known =>
            ih entry member (distinct.each entry member) (further.each another known))
          (by simpa only [toValue] using same))
      · exact absurd same.symm (toValue_ne_embedded (not_exists.mp h) object)
  | array items ih =>
      cases other with
      | array others =>
          rw [distinct_array_iff] at distinct further
          have values : items.toValue = others.toValue := by
            simpa [toValue] using same
          rw [ih distinct further values]
      | scalar | freeForm => simp [toValue, JsonType.member] at same
      | embedded object =>
          exact absurd same (toValue_ne_embedded (fun _ => Property.noConfusion) object)
      | upload mark => exact absurd same (toValue_ne_upload (fun _ => Property.noConfusion) mark)
  | upload mark =>
      by_cases h : ∃ another, other = upload another
      · obtain ⟨another, rfl⟩ := h
        rw [toValue_upload_inj.mp same]
      · exact absurd same.symm (toValue_ne_upload (not_exists.mp h) mark)

section Told

variable {document other : Document} (distinct : document.Distinct) (further : other.Distinct)

include distinct further

/-- Documents are told by their values, each as the one property of a kind that has it inside. -/
theorem ObjectOf.toValue_inj : document.toValue = other.toValue ↔ document = other := by
  constructor
  · intro same
    apply Property.embedded.inj
    apply Property.eq_of_toValue_eq (.embedded distinct.names distinct.each)
      (.embedded further.names further.each)
    rwa [Property.toValue, Property.toValue]
  · exact congrArg toValue

/-- Documents are told by what is written of them, since that tells their values. -/
theorem ObjectOf.toJson_inj : document.toJson = other.toJson ↔ document = other := by
  constructor
  · intro same
    have values : document.toValue = other.toValue := by
      rw [toValue_eq_collapsed fun entry _ => entry.2.toValue_eq_collapsed,
        toValue_eq_collapsed fun entry _ => entry.2.toValue_eq_collapsed, same]
    exact (toValue_inj distinct further).mp values
  · exact congrArg toJson

end Told

theorem Property.toJson_ne_upload {property : Property}
    (other : ∀ another, property ≠ upload another) (mark : String)
    : property.toJson ≠ (upload mark).toJson := by
  intro same
  apply toValue_ne_upload other mark
  rw [toValue_eq_collapsed, toValue_eq_collapsed, same]

/-- Names are distinct in a property if they are in all objects that it holds, however deep. -/
theorem Property.distinct_of_forall_nested {property : Property}
    (h
      : ∀ {outer depth inner},
          property.Holds outer
          → Nested depth outer inner
          → (Members.names inner.properties).Nodup)
    : property.Distinct := by
  induction property using induct with
  | scalar type => exact .scalar type
  | freeForm => exact .freeForm
  | embedded object ih =>
      refine .embedded (h (.embedded object) (.here object)) fun entry member => ?_
      exact ih entry member fun holds nested =>
        h (.embedded object) (.inside ⟨entry.1, entry.2, member, holds⟩ nested)
  | array items ih => exact .array (ih fun holds nested => h (.array holds) nested)
  | upload mark => exact .upload mark

/-- Uploads repeat no names. -/
theorem EntityDefinition.distinct_toForm {document : Document} (h : document.Distinct)
    (definition : EntityDefinition) (mark id : String)
    : (definition.toForm mark id document).Distinct := by
  refine ⟨(definition.names_toForm mark id document).symm ▸ h.names, fun entry member => ?_⟩
  obtain ⟨source, known, rfl⟩ := List.mem_map.mp member
  rcases definition.uploadProperty_cases mark source with same | upload
  · rw [same]
    exact h.each source known
  · rw [upload]
    exact .upload mark

section Generated

variable {registry : Registry} {settings : ViewSettings} {model : Model}
  {qualifier : Option String} {document : Document}

theorem distinct_of_generate_base {kind : ViewKind}
    (h : View.generate registry settings (.base kind) model qualifier = .ok document)
    : document.Distinct := by
  have wellFormed := wellFormed_of_generate_base h
  apply Property.distinct_embedded_iff.mp
  apply Property.distinct_of_forall_nested
  intro outer depth inner holds nested
  cases holds
  exact (wellFormed.fits nested).distinct

/-- The documents of all views and forms have distinct names, so their renderings tell them. -/
theorem distinct_of_generate {view : View}
    (h : View.generate registry settings view model qualifier = .ok document)
    : document.Distinct := by
  cases view with
  | base kind => exact distinct_of_generate_base h
  | form kind =>
      obtain ⟨created, definition, answered, _, rfl⟩ := generate_form_eq_ok_iff.mp h
      exact definition.distinct_toForm (distinct_of_generate_base answered) _ _

end Generated

/-- Nothing but the properties of an object schema could hold a number. -/
theorem ObjectOf.numberless_membersWith (document : Document) {properties : Json}
    (h : properties.Numberless)
    : (Json.object (document.membersWith properties)).Numberless := by
  refine .object ?_
  rw [membersWith, List.forall_mem_append, List.forall_mem_append, List.forall_mem_cons,
    List.forall_mem_singleton]
  exact ⟨⟨Json.numberless_given .string, .string _, h⟩,
    Json.numberless_given Json.numberless_strings⟩

theorem ObjectOf.numberless_toJson {document : Document}
    (h : ∀ entry ∈ document.properties, entry.2.toJson.Numberless)
    : document.toJson.Numberless := by
  rw [toJson_eq, propertiesToJson_eq_map]
  exact document.numberless_membersWith (.object (List.forall_mem_map.mpr h))

/-- Schemas are written without numbers, by induction over the property. -/
theorem Property.numberless_toJson (property : Property) : property.toJson.Numberless := by
  induction property using induct with
  | scalar type => exact .object (List.forall_mem_singleton.mpr (.string _))
  | freeForm =>
      exact .object (List.forall_mem_cons.mpr
        ⟨.string _, List.forall_mem_singleton.mpr (.boolean _)⟩)
  | embedded object ih =>
      rw [toJson]
      exact ObjectOf.numberless_toJson ih
  | array items ih =>
      exact .object (List.forall_mem_cons.mpr ⟨.string _, List.forall_mem_singleton.mpr ih⟩)
  | upload mark =>
      exact .object (List.forall_mem_cons.mpr ⟨.string _, List.forall_mem_singleton.mpr
        (.object (List.forall_mem_singleton.mpr (.string _)))⟩)

/-- A document is told from all others by its value and by its texts, on one line or indented, down
to the order of its properties. An upload is told so from properties of all other kinds, whatever
its mark.
-/
theorem renderings_tell_documents {document other : Document} (distinct : document.Distinct)
    (further : other.Distinct)
    : (document.toValue = other.toValue ↔ document = other)
      ∧ (document.toJson.compact = other.toJson.compact ↔ document = other)
      ∧ (document.toJson.pretty = other.toJson.pretty ↔ document = other)
      ∧ ∀ (property : Property) (mark : String),
          (∀ another, property ≠ .upload another)
          → property.toValue ≠ (Property.upload mark).toValue
            ∧ property.toJson.compact ≠ (Property.upload mark).toJson.compact
            ∧ property.toJson.pretty ≠ (Property.upload mark).toJson.pretty := by
  have first : document.toJson.Numberless :=
    ObjectOf.numberless_toJson fun entry _ => entry.2.numberless_toJson
  have second : other.toJson.Numberless :=
    ObjectOf.numberless_toJson fun entry _ => entry.2.numberless_toJson
  refine ⟨ObjectOf.toValue_inj distinct further, ?compact, ?pretty,
    fun property mark kind => ?_⟩
  case compact => rw [first.compact_inj second, ObjectOf.toJson_inj distinct further]
  case pretty => rw [first.pretty_inj second, ObjectOf.toJson_inj distinct further]
  have written := Property.toJson_ne_upload kind mark
  have numberless := property.numberless_toJson
  have uploaded := (Property.upload mark).numberless_toJson
  exact ⟨Property.toValue_ne_upload kind mark,
    fun same => written ((numberless.compact_inj uploaded).mp same),
    fun same => written ((numberless.pretty_inj uploaded).mp same)⟩

/-- Two galleries show that their uploads have different marks, one of them that of the type and
the other that of a free form.
-/
theorem gallery_told_by_marks
    : (galleryDocument "type").toValue ≠ (galleryDocument "additionalProperties").toValue
      ∧ (galleryDocument "type").toJson.compact
        ≠ (galleryDocument "additionalProperties").toJson.compact
      ∧ (galleryDocument "type").toJson.pretty
        ≠ (galleryDocument "additionalProperties").toJson.pretty
      ∧ Property.freeForm.toValue ≠ (Property.upload "additionalProperties").toValue := by
  have differ : galleryDocument "type" ≠ galleryDocument "additionalProperties" := by
    intro same
    have marks : (galleryDocument "additionalProperties").Marks "type" :=
      same ▸ marks_galleryDocument_iff.mpr rfl
    exact absurd (marks_galleryDocument_iff.mp marks) (by decide)
  obtain ⟨values, texts, lines, uploads⟩ := renderings_tell_documents
    (distinct_galleryDocument "type") (distinct_galleryDocument "additionalProperties")
  have shown := uploads .freeForm "additionalProperties" fun _ => Property.noConfusion
  exact ⟨fun same => differ (values.mp same), fun same => differ (texts.mp same),
    fun same => differ (lines.mp same), shown.1⟩

end EntityViews
