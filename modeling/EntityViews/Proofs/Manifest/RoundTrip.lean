import EntityViews.Json.Printer
import EntityViews.Manifest
import EntityViews.Proofs.Source.Written
import Mathlib

/-! Manifests that are written and read again.
Whatever text a manifest has been read from, its declarations are canonical and repeat no name in
their data. So the manifest is what is read from its own JSON, null defaults and order included.
-/

namespace EntityViews

/-- The declaration is read as it was from data that say what is written of it. -/
structure Declaration.Readable (declaration : Declaration) : Prop where
  canonical : declaration.Canonical
  distinct : declaration.toJson.Distinct

/-- The declarations of all fields are read as they were. -/
def Fields.Readable (fields : Fields) : Prop :=
  ∀ entry ∈ fields.entries, entry.2.Readable

namespace Source

theorem readDeclaration_written {declaration : Declaration} (h : declaration.Readable)
    : readDeclaration (ofJson declaration.toJson) = .ok declaration := by
  simp only [readDeclaration, toJson?_ofJson h.distinct, Declaration.ofJson_toJson h.canonical]

/-- Whatever is read can be written and read again. -/
theorem readable_of_readDeclaration {source : Source} {declaration : Declaration}
    (h : readDeclaration source = .ok declaration)
    : declaration.Readable := by
  unfold readDeclaration at h
  cases told : source.toJson? with
  | none => simp [told] at h
  | some value =>
      rw [told] at h
      cases declares : Declaration.ofJson value with
      | error problem => simp [declares] at h
      | ok read =>
          obtain rfl : read = declaration := by simpa [declares] using h
          exact ⟨Declaration.canonical_of_ofJson declares,
            Declaration.distinct_toJson (distinct_of_toJson? told) declares⟩

theorem readFields_written {fields : Fields} (h : fields.Readable)
    : readFields (ofJson fields.toJson) = .ok fields :=
  readMap_written Declaration.toJson fun entry member =>
    readDeclaration_written (h entry member)

theorem readable_of_readFields {source : Source} {fields : Fields}
    (h : readFields source = .ok fields)
    : fields.Readable := by
  intro entry member
  obtain ⟨_, read⟩ := exists_read_of_readMap h entry member
  exact readable_of_readDeclaration read

end Source

theorem SortOrder.read_written (format : Format) (order : SortOrder)
    : read format (Source.ofJson (.string order.name)) = .ok order := by
  cases format <;> cases order <;> rfl

/-- What is written of sorted members is read as it was, their order included. -/
theorem EntityOptions.readOptional_orderBy (format : Format) (orderBy : OrderedMap SortOrder)
    : (Source.ofJson (orderByToJson orderBy)).readOptional
          (Source.readMap (SortOrder.read format))
      = .ok (some orderBy) := by
  have read
      : (Source.ofJson (orderByToJson orderBy)).readMap (SortOrder.read format)
        = .ok orderBy :=
    Source.readMap_written (fun order : SortOrder => .string order.name) fun entry _ =>
      SortOrder.read_written format entry.2
  exact congrArg (some <$> ·) read

theorem EntityOptions.distinct_orderByToJson (orderBy : OrderedMap SortOrder)
    : (orderByToJson orderBy).Distinct :=
  Json.distinct_map (fun order : SortOrder => .string order.name) fun _ _ => .string _

theorem EntityOptions.among (options : EntityOptions)
    : Json.Among ["tableName", "database", "schema", "synchronize", "orderBy"]
        options.toMembers :=
  Json.Among.givenBy .string _
    |>.append (.givenBy .string _)
    |>.append (.givenBy .string _)
    |>.append (.givenBy .boolean _)
    |>.append (.givenBy distinct_orderByToJson _)

/-- Options are read as they were written. -/
theorem EntityOptions.read_written (format : Format) (options : EntityOptions)
    : read format (Source.ofJson options.toJson) = .ok options := by
  have start : Reads (record format).take [] {} {} := .none _
  have tableName := start.givenBy "tableName" Json.string
    (fun state value => { state with tableName? := value }) rfl (fun _ => rfl)
    options.tableName?
  have database := tableName.givenBy "database" Json.string
    (fun state value => { state with database? := value }) rfl (fun _ => rfl)
    options.database?
  have schema := database.givenBy "schema" Json.string
    (fun state value => { state with schema? := value }) rfl (fun _ => rfl) options.schema?
  have synchronize := schema.givenBy "synchronize" Json.boolean
    (fun state value => { state with synchronize? := value }) rfl (fun _ => rfl)
    options.synchronize?
  have orderBy := synchronize.givenBy "orderBy" orderByToJson
    (fun state value => { state with orderBy? := value }) rfl
    (fun value => by
      simp [Source.Record.take, Source.Record.readMember, record, readOptional_orderBy])
    options.orderBy?
  exact Source.Record.read_written (options.among.sublist.nodup (by decide)) orderBy

theorem ManifestEntry.read_written (format : Format) {entry : ManifestEntry}
    (h : entry.fields.Readable)
    : read format (Source.ofJson entry.toJson) = .ok entry := by
  have fields
      : Reads (record format).take [("fields", entry.fields.toJson)] {}
          { fields := entry.fields } := by
    refine .one ?_
    simp [Source.Record.take, Source.Record.readMember, record, Source.readFields_written h]
  have options
      : Reads (record format).take [("options", entry.options.toJson)]
          { fields := entry.fields } entry := by
    refine .one ?_
    simp [Source.Record.take, Source.Record.readMember, record, EntityOptions.read_written]
  exact Source.Record.read_written (by simp) (fields.append options)

/-- Whatever form a model of a manifest is written in, its fields can be read again. -/
theorem ManifestEntry.readable_of_read {format : Format} {source : Source}
    {entry : ManifestEntry} (h : read format source = .ok entry)
    : entry.fields.Readable := by
  refine Source.Record.read_keeps (P := fun entry : ManifestEntry => entry.fields.Readable)
    ?_ (by simp [Fields.Readable]) h
  intro field member state source later kept read
  simp only [record, List.mem_cons, List.not_mem_nil, or_false] at member
  rcases member with rfl | rfl
  · obtain ⟨fields, reads, same⟩ := Except.bind_eq_ok_iff.mp read
    obtain rfl := Except.ok.inj same
    exact Source.readable_of_readFields reads
  · obtain ⟨options, _, same⟩ := Except.bind_eq_ok_iff.mp read
    obtain rfl := Except.ok.inj same
    exact kept

namespace Manifest

/-- The fields of all models are read as they were. -/
def Readable (manifest : Manifest) : Prop :=
  ∀ entry ∈ manifest.models.entries, entry.2.fields.Readable

theorem read_written (format : Format) {manifest : Manifest} (h : manifest.Readable)
    : read format (Source.ofJson manifest.toJson) = .ok manifest := by
  have models
      : (Source.ofJson
          (.object (manifest.models.entries.map fun entry => (entry.1, entry.2.toJson)))).readMap
            (ManifestEntry.read format)
        = .ok manifest.models :=
    Source.readMap_written ManifestEntry.toJson fun entry member =>
      ManifestEntry.read_written format (h entry member)
  refine Source.Record.read_written (by simp) (.one ?_)
  simp [Source.Record.take, Source.Record.readMember, record, models]

/-- Whatever form a manifest is written in, it can be read again. -/
theorem readable_of_read {format : Format} {source : Source} {manifest : Manifest}
    (h : read format source = .ok manifest)
    : manifest.Readable := by
  refine Source.Record.read_keeps (P := Readable) ?_ (by simp [Readable]) h
  intro field member state source later kept read
  obtain rfl := List.mem_singleton.mp member
  obtain ⟨models, reads, same⟩ := Except.bind_eq_ok_iff.mp read
  obtain rfl := Except.ok.inj same
  intro entry known
  obtain ⟨_, found⟩ := Source.exists_read_of_readMap reads entry known
  exact ManifestEntry.readable_of_read found

theorem ofText_eq_ok_iff {format : Format} {text : String} {manifest : Manifest}
    : ofText format text = .ok manifest
      ↔ read format (Reading.ofText format text).root = .ok manifest
        ∧ (Reading.ofText format text).clean = true := by
  unfold ofText Reading.decode
  cases read format (Reading.ofText format text).root with
  | error problem => simp
  | ok found => cases (Reading.ofText format text).clean <;> simp [Source.afterClosing]

/-- Declarations are read back from what is written of them exactly if they are canonical, and
those that have been read are. So a manifest that has been read from a text of either format is
read back from its own JSON, and from every text that says it.
-/
theorem reads_back
    : (∀ declaration : Declaration,
        Declaration.ofJson declaration.toJson = .ok declaration ↔ declaration.Canonical)
      ∧ (∀ value declaration,
        Declaration.ofJson value = .ok declaration → declaration.Canonical)
      ∧ ∀ format text manifest,
        ofText format text = .ok manifest
        → read .json (Source.ofJson manifest.toJson) = .ok manifest
          ∧ ∀ written,
              Reading.ofText .json written = ⟨Source.ofJson manifest.toJson, true⟩
              → ofText .json written = .ok manifest := by
  refine ⟨Declaration.ofJson_toJson_eq_ok_iff, fun _ _ => Declaration.canonical_of_ofJson, ?_⟩
  intro format text manifest found
  -- The text matters only for what has been read from it being readable.
  have back : read .json (Source.ofJson manifest.toJson) = .ok manifest :=
    read_written .json (readable_of_read (ofText_eq_ok_iff.mp found).1)
  refine ⟨back, fun written told => ofText_eq_ok_iff.mpr ?_⟩
  rw [told]
  exact ⟨back, rfl⟩

/-- Shelves, with rows that are null by default and sorted by. -/
def shelfText : String :=
  "\x7b\"models\":\x7b\"Shelf\":\x7b"
    ++ "\"fields\":\x7b\"row\":\x7b\"type\":\"int\",\"default\":null\x7d\x7d,"
    ++ "\"options\":\x7b\"orderBy\":\x7b\"row\":\"DESC\"\x7d\x7d\x7d\x7d\x7d"

/-- What the text of the shelves declares. -/
def shelves : Manifest :=
  {
    models := .ofList
      [
        ("Shelf",
          {
            fields := .ofList
              [("row", .column { type := .logical .integer, default? := some .null })],
            options := { orderBy? := some (.ofList [("row", .descending)]) }
          })
      ]
  }

/-- The shelves are read back from the text that is printed of them. -/
theorem shelves_read_back
    : ofText .json shelfText = .ok shelves
      ∧ ofText .json (Json.compact shelves.toJson) = .ok shelves := by
  have found : ofText .json shelfText = .ok shelves := by cbv
  have told
      : Reading.ofText .json (Json.compact shelves.toJson)
        = ⟨Source.ofJson shelves.toJson, true⟩ := by cbv
  exact ⟨found, (reads_back.2.2 .json shelfText shelves found).2 _ told⟩

end Manifest

end EntityViews
