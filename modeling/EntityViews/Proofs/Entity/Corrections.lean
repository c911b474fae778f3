import EntityViews.Proofs.Entity.Mistakes
import EntityViews.Proofs.Source.Pairs
import EntityViews.Source.Reader
import EntityViews.Source.Text
import Mathlib

/-! What comes of following the example of a mistake.
The example declares the refused field anew. With that declaration the field is accepted, unless
it has the name of the primary column: then no declaration is, though an example is shown.
-/

namespace EntityViews

/-- The declaration that the example of a mistake gives to the refused field. -/
def SchemaError.correction? : SchemaError → Option Declaration
  | .multiplePrimaryKeys .. => some (.column { type := .logical .string, unique := true })
  | .inlineRelation .. =>
      some (.relation { kind := .oneToOne, target := .name "Detail", joinColumn := true })
  | .unsupportedTarget .. => some (.relation { kind := .manyToOne, target := .name "Author" })
  | .duplicateModel _ => none
  | .unknownModel _ => none
  | .repositoryNotReady _ => none
  | .depthExceeded .. => none

/-- The last line of the example gives a text to the field, and behind every key that needs no
quotes this text is read as the declaration.
-/
def SchemaError.Shows (problem : SchemaError) (field : String) (declaration : Declaration)
    : Prop :=
  ∃ lines text,
    problem.exampleLines = some (lines ++ [field ++ " = " ++ text])
    ∧ ∀ key,
        TomlText.IsPlainKey key
        → (Reading.ofText .toml (key ++ " = " ++ text)).decode Source.readFields
          = .ok (.ofList [(key, declaration)])

/-- A text is read as the declaration of its value, behind every key that needs no quotes. -/
theorem readFields_pair {text : String} (value : Source) (rest : List Char)
    {declaration : Declaration}
    (reads
      : TomlText.readValue (2 * (TomlText.skipSpace text.toList).length + 2)
          (TomlText.nestingLimit - 1) (TomlText.skipSpace text.toList)
        = some (value, rest))
    (ends : TomlText.skipLine rest = some [])
    (declares : Source.readDeclaration value = .ok declaration) {key : String}
    (plain : TomlText.IsPlainKey key)
    : (Reading.ofText .toml (key ++ " = " ++ text)).decode Source.readFields
      = .ok (.ofList [(key, declaration)]) := by
  have table : Reading.ofText .toml (key ++ " = " ++ text) = ⟨.object [(key, value)] true, true⟩ :=
    TomlText.read_pair plain ends reads
  rw [table]
  simp only [Reading.decode, Source.readFields, Source.readMap, Source.members?,
    List.foldlM_cons, List.foldlM_nil, declares]
  rfl

section Examples

variable (model field : String)

theorem shows_multiplePrimaryKeys
    : (SchemaError.multiplePrimaryKeys model field).Shows field
        (.column { type := .logical .string, unique := true }) := by
  refine ⟨["[models.Example.fields]"],
    "\x7b type = \"string\", unique = true \x7d  # instead of primary = true",
    by simp [SchemaError.exampleLines, String.append_assoc], fun key plain => ?_⟩
  exact readFields_pair
    (.object [("type", .string "string"), ("unique", .boolean true)] true)
    "  # instead of primary = true".toList (by cbv) (by cbv) (by cbv) plain

theorem shows_inlineRelation
    : (SchemaError.inlineRelation model field).Shows field
        (.relation { kind := .oneToOne, target := .name "Detail", joinColumn := true }) := by
  refine ⟨["# Replace", field ++ " = \"one-to-one\"", "# with"],
    "\x7b type = \"one-to-one\", target = \"Detail\", joinColumn = true \x7d",
    by simp [SchemaError.exampleLines, String.append_assoc], fun key plain => ?_⟩
  exact readFields_pair
    (.object
      [
        ("type", .string "one-to-one"), ("target", .string "Detail"),
        ("joinColumn", .boolean true)
      ]
      true)
    [] (by cbv) (by cbv) (by cbv) plain

theorem shows_unsupportedTarget
    : (SchemaError.unsupportedTarget model field).Shows field
        (.relation { kind := .manyToOne, target := .name "Author" }) := by
  refine ⟨[], "\x7b type = \"many-to-one\", target = \"Author\" \x7d",
    by simp [SchemaError.exampleLines, String.append_assoc], fun key plain => ?_⟩
  exact readFields_pair
    (.object [("type", .string "many-to-one"), ("target", .string "Author")] true)
    [] (by cbv) (by cbv) (by cbv) plain

end Examples

/-- What stands before the field compiles, and the field itself is refused. -/
def RefusedAt (model : String) (fields : Members Declaration) (field : String)
    (problem : SchemaError)
    : Prop :=
  ∃ before declaration after,
    fields = before ++ (field, declaration) :: after
    ∧ ∃ definition : EntityDefinition,
        before.foldlM (fun definition entry => definition.addField model entry.1 entry.2)
            EntityDefinition.initial
          = .ok definition
        ∧ definition.addField model field declaration = .error problem

/-- The fields compile, or the refused field is declared after the given one. -/
def GetsPast (model : String) (fields : Fields) (field : String) : Prop :=
  (∃ definition, normalize model fields = .ok definition)
  ∨ ∃ before declaration after later problem,
      fields.entries = before ++ (field, declaration) :: after
      ∧ later ∈ Members.names after
      ∧ RefusedAt model fields.entries later problem

section Refused

variable {model field : String} {fields : Fields} {problem : SchemaError}
  {declaration : Declaration}

/-- Fields do not compile exactly if one of them is refused. -/
theorem normalize_eq_error_iff_refusedAt
    : normalize model fields = .error problem
      ↔ ∃ field, RefusedAt model fields.entries field problem := by
  rw [normalize, List.foldlM_eq_error_iff]
  constructor
  · intro fails
    obtain ⟨before, ⟨field, declaration⟩, after, definition, split, refused⟩ := fails
    exact ⟨field, before, declaration, after, split, definition, refused⟩
  · intro fails
    obtain ⟨field, before, declaration, after, split, definition, refused⟩ := fails
    exact ⟨before, (field, declaration), after, definition, split, refused⟩

/-- Another declaration takes the place of the old one. -/
theorem entries_insert_of_split {before after : Members Declaration}
    (split : fields.entries = before ++ (field, declaration) :: after) (other : Declaration)
    : (fields.insert field other).entries = before ++ (field, other) :: after := by
  have distinct := fields.distinct
  rw [split, Members.names_append, Members.names_cons, List.nodup_append] at distinct
  have fresh : field ∉ Members.names before := fun member =>
    distinct.2.2 field member field List.mem_cons_self rfl
  rw [OrderedMap.entries_insert, split, Members.put_append_cons fresh]

/-- A mistaken field is shown a declaration under which it has no mistake, unless it has the name
of the primary column.
-/
theorem Mistaken.exists_correction (mistaken : Mistaken model field declaration problem)
    : ∃ correction,
        problem.correction? = some correction
        ∧ problem.Shows field correction
        ∧ (field ≠ primaryColumn → ∀ other, ¬ Mistaken model field correction other) := by
  cases mistaken with
  | primaryName declaration =>
      exact ⟨_, rfl, shows_multiplePrimaryKeys _ _, fun ordinary => absurd rfl ordinary⟩
  | primary h =>
      refine ⟨_, rfl, shows_multiplePrimaryKeys _ _, fun ordinary other again => ?_⟩
      cases again <;> contradiction
  | bare ordinary kind =>
      refine ⟨_, rfl, shows_inlineRelation _ _, fun ordinary other again => ?_⟩
      cases again <;> contradiction
  | unresolved ordinary h =>
      refine ⟨_, rfl, shows_unsupportedTarget _ _, fun ordinary other again => ?_⟩
      cases again <;> contradiction

/-- Under the name of the primary column every declaration makes the same mistake. -/
theorem Mistaken.of_primaryColumn (mistaken : Mistaken model primaryColumn declaration problem)
    (other : Declaration)
    : Mistaken model primaryColumn other problem := by
  cases mistaken with
  | primaryName declaration => exact .primaryName other
  | primary h => exact .primaryName other
  | bare ordinary kind => exact absurd rfl ordinary
  | unresolved ordinary h => exact absurd rfl ordinary

/-- A field that has no mistake any more is got past: what stands before it compiles as before, and
what is refused then is declared after it.
-/
theorem RefusedAt.getsPast (refused : RefusedAt model fields.entries field problem)
    (free : ∀ other, ¬ Mistaken model field declaration other)
    : GetsPast model (fields.insert field declaration) field := by
  obtain ⟨before, old, after, split, definition, reached, _⟩ := refused
  have replaced := entries_insert_of_split split declaration
  obtain ⟨extended, enters⟩
      : ∃ extended, definition.addField model field declaration = .ok extended :=
    EntityDefinition.exists_addField_iff.mpr free
  have further
      : (before ++ [(field, declaration)]).foldlM
            (fun definition entry => definition.addField model entry.1 entry.2)
            EntityDefinition.initial
          = .ok extended := by
    rw [List.foldlM_append, reached]
    simp [enters]
  cases compiled : normalize model (fields.insert field declaration) with
  | ok definition => exact Or.inl ⟨definition, compiled⟩
  | error other =>
      right
      rw [normalize, replaced, List.append_cons, List.foldlM_append, further, Except.ok_bind,
        List.foldlM_eq_error_iff] at compiled
      obtain ⟨between, ⟨later, last⟩, rest, definition, rfl, compiles, fails⟩ := compiled
      refine ⟨before, declaration, _, later, other, replaced, by simp, ?_⟩
      refine ⟨before ++ [(field, declaration)] ++ between, last, rest, ?_, definition, ?_, fails⟩
      · rw [replaced]
        simp
      · rw [List.foldlM_append, further, Except.ok_bind, compiles]

/-- Fields do not compile if one of them is refused, and with the declaration that is shown to it
this one is got past, all others unchanged. A field that has the name of the primary column is
the exception: it is shown a declaration too, but is refused alike with every declaration.
-/
theorem correction_getsPast (model : String) (fields : Fields)
    : (∀ problem,
        normalize model fields = .error problem
          ↔ ∃ field, RefusedAt model fields.entries field problem)
      ∧ ∀ field problem,
          RefusedAt model fields.entries field problem
          → ∃ correction,
              problem.correction? = some correction
              ∧ problem.Shows field correction
              ∧ (field ≠ primaryColumn
                → GetsPast model (fields.insert field correction) field)
              ∧ (field = primaryColumn
                → ∀ declaration,
                    RefusedAt model (fields.insert field declaration).entries field problem) := by
  refine ⟨fun problem => normalize_eq_error_iff_refusedAt, fun field problem refused => ?_⟩
  obtain ⟨before, declaration, after, split, definition, reached, fails⟩ := refused
  have mistaken := EntityDefinition.addField_eq_error_iff.mp fails
  obtain ⟨correction, known, shown, free⟩ := mistaken.exists_correction
  refine ⟨correction, known, shown, ?corrects, ?reserved⟩
  case corrects =>
    intro ordinary
    exact RefusedAt.getsPast ⟨before, declaration, after, split, definition, reached, fails⟩
      (free ordinary)
  case reserved =>
    intro same other
    subst same
    exact ⟨before, other, after, entries_insert_of_split split other, definition, reached,
      EntityDefinition.addField_eq_error_iff.mpr (mistaken.of_primaryColumn other)⟩

end Refused

/-- The fields of a ticket whose code is a second primary column and whose detail is bare. -/
def ticketFields : Fields :=
  .ofList
    [
      ("title", .scalar .string),
      ("code", .column { type := .logical .integer, primary := true }),
      ("detail", .relationTag .oneToOne)
    ]

/-- The fields of a ticket that declares the identifier itself. -/
def numberedTicketFields : Fields :=
  .ofList [("id", .scalar .integer), ("detail", .relationTag .oneToOne)]

/-- With the shown declaration of its code the ticket is refused for its detail, which is declared
later. With the one that is shown to the identifier it is refused as before.
-/
theorem ticket_getsPast
    : (∃ correction,
        (SchemaError.multiplePrimaryKeys "Ticket" "code").Shows "code" correction
        ∧ GetsPast "Ticket" (ticketFields.insert "code" correction) "code")
      ∧ ∃ correction,
          (SchemaError.multiplePrimaryKeys "Ticket" "id").Shows "id" correction
          ∧ normalize "Ticket" (numberedTicketFields.insert "id" correction)
            = .error (.multiplePrimaryKeys "Ticket" "id") := by
  have code : RefusedAt "Ticket" ticketFields.entries "code"
      (.multiplePrimaryKeys "Ticket" "code") :=
    ⟨[("title", .scalar .string)], _, [("detail", .relationTag .oneToOne)], rfl, _, rfl, rfl⟩
  have identifier : RefusedAt "Ticket" numberedTicketFields.entries "id"
      (.multiplePrimaryKeys "Ticket" "id") :=
    ⟨[], _, [("detail", .relationTag .oneToOne)], rfl, _, rfl, rfl⟩
  constructor
  · obtain ⟨correction, _, shown, past, _⟩ :=
      (correction_getsPast "Ticket" ticketFields).2 _ _ code
    exact ⟨correction, shown, past (by decide)⟩
  · obtain ⟨correction, _, shown, _, reserved⟩ :=
      (correction_getsPast "Ticket" numberedTicketFields).2 _ _ identifier
    exact ⟨correction, shown, normalize_eq_error_iff_refusedAt.mpr ⟨_, reserved rfl correction⟩⟩

end EntityViews
