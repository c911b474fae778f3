import EntityViews.Declaration.Writer
import EntityViews.Proofs.Json.Accepted

/-! Declarations that are written and read again.
A reader takes a word for a logical type or a relation kind wherever it can, and a text for the
name of a target. A declaration that is canonical in this sense reads as it was written.
-/

namespace EntityViews

-----------------------------------------------------------------------------------------
-- Words
-----------------------------------------------------------------------------------------

theorem LogicalType.parse?_name (type : LogicalType) : parse? type.name = some type := by
  cases type <;> rfl

theorem RelationKind.parse?_name (kind : RelationKind) : parse? kind.name = some kind := by
  cases kind <;> rfl

/-- A word spells a logical type if it is one of the spellings of that type. -/
theorem LogicalType.mem_spellings_of_parse? {word : String} {type : LogicalType}
    (h : parse? word = some type)
    : word ∈ type.spellings := by
  simpa using List.find?_some h

/-- A word that spells a logical type spells no relation kind. -/
theorem RelationKind.parse?_eq_none_of_logical {word : String} {type : LogicalType}
    (h : LogicalType.parse? word = some type)
    : parse? word = none := by
  have spelled := LogicalType.mem_spellings_of_parse? h
  have none : ∀ type : LogicalType, ∀ word ∈ type.spellings, parse? word = none := by
    intro type
    cases type <;> decide
  exact none type word spelled

/-- No name of a logical type is taken for a relation kind. -/
theorem RelationKind.parse?_logicalName (type : LogicalType) : parse? type.name = none :=
  parse?_eq_none_of_logical (LogicalType.parse?_name type)

theorem Strategy.parse?_name (strategy : Strategy) : parse? strategy.name = some strategy := by
  cases strategy <;> rfl

theorem Operation.parse?_name (operation : Operation)
    : parse? operation.name = some operation := by
  cases operation <;> rfl

theorem Strategy.parse?_eq_some_iff (word : String) (strategy : Strategy)
    : parse? word = some strategy ↔ word = strategy.name := by
  constructor
  · intro parsed
    unfold parse? at parsed
    split at parsed
    · exact Option.some.inj parsed ▸ rfl
    · exact Option.some.inj parsed ▸ rfl
    · exact Option.some.inj parsed ▸ rfl
    · contradiction
  · rintro rfl
    exact parse?_name strategy

theorem Operation.parse?_eq_some_iff (word : String) (operation : Operation)
    : parse? word = some operation ↔ word = operation.name := by
  constructor
  · intro parsed
    have same : operation.name = word := by simpa using List.find?_some parsed
    exact same.symm
  · rintro rfl
    exact parse?_name operation

-----------------------------------------------------------------------------------------
-- Canonical declarations
-----------------------------------------------------------------------------------------

/-- The type is not a storage type that reads as a logical type or as a relation kind. -/
def ColumnType.Canonical : ColumnType → Prop
  | .logical _ => True
  | .raw storage => LogicalType.parse? storage = none ∧ RelationKind.parse? storage = none

/-- The target is not a reference that reads as a name. -/
def Target.Canonical : Target → Prop
  | .name _ => True
  | .reference value => ∀ model, value ≠ .string model

/-- The declaration is written as no other declaration is. -/
def Declaration.Canonical : Declaration → Prop
  | .scalar _ => True
  | .column declared => declared.type.Canonical
  | .relationTag _ => True
  | .relation declared => declared.target.Canonical

/-- A canonical type is the one that its word names. -/
theorem ColumnType.ofWord_word {type : ColumnType} (h : type.Canonical)
    : ofWord type.word = type := by
  cases type with
  | logical type => rw [word, ofWord, LogicalType.parse?_name]
  | raw storage => rw [word, ofWord, h.1]

/-- No relation is written under the word of a canonical type. -/
theorem ColumnType.parse?_word {type : ColumnType} (h : type.Canonical)
    : RelationKind.parse? type.word = none := by
  cases type with
  | logical type => exact RelationKind.parse?_logicalName type
  | raw storage => exact h.2

/-- A type named by a word that is no relation kind is canonical. -/
theorem ColumnType.canonical_ofWord {word : String} (h : RelationKind.parse? word = none)
    : (ofWord word).Canonical := by
  unfold ofWord
  split
  · trivial
  · rename_i unknown
    exact ⟨unknown, h⟩

theorem Target.ofJson_toJson {target : Target} (h : target.Canonical)
    : ofJson target.toJson = target := by
  cases target with
  | name model => rfl
  | reference value =>
      cases value with
      | string model => exact absurd rfl (h model)
      | null | boolean _ | number _ | array _ | object _ => rfl

theorem Target.canonical_ofJson (value : Json) : (ofJson value).Canonical := by
  cases value with
  | string model => trivial
  | null | boolean _ | number _ | array _ | object _ => exact fun _ same => nomatch same

-----------------------------------------------------------------------------------------
-- Values of members
-----------------------------------------------------------------------------------------

namespace Json

theorem readOptional_generation (generation : Generation)
    : generation.toJson.readOptional Generation.ofJson = .ok (some generation) := by
  cases generation with
  | flag value => rfl
  | strategy strategy => cases strategy <;> rfl

theorem readOptional_strings (values : List String)
    : (strings values).readOptional readTexts = .ok (some values) :=
  (accepts_optionalTexts _ _).mpr (.given rfl)

theorem readOptional_word (value : UInt32)
    : (word value).readOptional readWord = .ok (some value) :=
  (accepts_optionalWord _ _).mpr (.given rfl)

end Json

theorem Cascade.ofJson_toJson (cascade : Cascade) : ofJson cascade.toJson = .ok cascade := by
  cases cascade with
  | every value => rfl
  | only operations =>
      have parsed
          : ((operations.map Operation.name).map Json.string).mapM
              (fun item => item.choice?.bind Operation.parse?)
            = some operations := by
        induction operations with
        | nil => rfl
        | cons operation rest ih =>
            rw [List.map_cons, List.map_cons, List.mapM_cons, ih]
            simp [Json.choice?, Operation.parse?_name]
      rw [toJson, Json.strings, ofJson, parsed]

-----------------------------------------------------------------------------------------
-- Columns and relations
-----------------------------------------------------------------------------------------

/-- The members of a column, read one after another, give the column. -/
theorem Column.ofMembers_written (column : Column)
    : ∃ members,
        column.toJson = .object members
        ∧ members.lookup "type" = some (.string column.type.word)
        ∧ ofMembers column.type members = .ok column := by
  refine ⟨_, rfl, rfl, ?_⟩
  -- Each member meets its option at the default, and leaves it as it is in the column.
  have type
      : Reads readMember [("type", .string column.type.word)] { type := column.type }
          { type := column.type } :=
    .one rfl
  have nullable := type.flag "nullable" (fun state value => { state with nullable := value })
    rfl rfl column.nullable
  have default := nullable.given "default" (fun state value => { state with default? := value })
    rfl (fun _ => rfl) column.default?
  have generated := default.givenBy "generated" Generation.toJson
    (fun state value => { state with generated? := value }) rfl
    (fun value => by simp [readMember, Json.readOptional_generation]) column.generated?
  have primary := generated.flag "primary" (fun state value => { state with primary := value })
    rfl rfl column.primary
  have unique := primary.flag "unique" (fun state value => { state with unique := value })
    rfl rfl column.unique
  have createDate := unique.flag "createDate"
    (fun state value => { state with createDate := value }) rfl rfl column.createDate
  have updateDate := createDate.flag "updateDate"
    (fun state value => { state with updateDate := value }) rfl rfl column.updateDate
  have deleteDate := updateDate.flag "deleteDate"
    (fun state value => { state with deleteDate := value }) rfl rfl column.deleteDate
  have values := deleteDate.givenBy "enum" Json.strings
    (fun state value => { state with values? := value }) rfl
    (fun value => by simp [readMember, Json.readOptional_strings]) column.values?
  have length := values.givenBy "length" Json.word
    (fun state value => { state with length? := value }) rfl
    (fun value => by simp [readMember, Json.readOptional_word]) column.length?
  have comment := length.givenBy "comment" Json.string
    (fun state value => { state with comment? := value }) rfl (fun _ => rfl) column.comment?
  exact comment

/-- The members of a relation with a canonical target, read one after another, give the relation.
-/
theorem Relation.ofMembers_written {relation : Relation} (h : relation.target.Canonical)
    : ∃ members,
        relation.toJson = .object members
        ∧ members.lookup "type" = some (.string relation.kind.name)
        ∧ ofMembers relation.kind members = .ok relation := by
  refine ⟨_, rfl, rfl, ?_⟩
  have target
      : Reads readMember
          [("type", .string relation.kind.name), ("target", relation.target.toJson)]
          { kind := relation.kind, target := .reference .null }
          { kind := relation.kind, target := relation.target } := by
    refine Reads.append (.one rfl) (.one ?_)
    simp only [readMember, Target.ofJson_toJson h]
  -- A cascade of nothing is the default, unlike an empty list.
  have cascade
      : Reads readMember
          (if relation.cascade = .every false then []
            else [("cascade", relation.cascade.toJson)])
          { kind := relation.kind, target := relation.target }
          { kind := relation.kind, target := relation.target, cascade := relation.cascade } := by
    split
    · rename_i unset
      rw [unset]
      exact .none _
    · refine .one ?_
      simp [readMember, Cascade.ofJson_toJson]
  have eager := (target.append cascade).flag "eager"
    (fun state value => { state with eager := value }) rfl rfl relation.eager
  have joinColumn := eager.flag "joinColumn"
    (fun state value => { state with joinColumn := value }) rfl rfl relation.joinColumn
  have joinTable := joinColumn.flag "joinTable"
    (fun state value => { state with joinTable := value }) rfl rfl relation.joinTable
  have inverseSide := joinTable.givenBy "inverseSide" Json.string
    (fun state value => { state with inverseSide? := value }) rfl (fun _ => rfl)
    relation.inverseSide?
  have nullable := inverseSide.givenBy "nullable" Json.boolean
    (fun state value => { state with nullable? := value }) rfl (fun _ => rfl)
    relation.nullable?
  have onDelete := nullable.givenBy "onDelete" Json.string
    (fun state value => { state with onDelete? := value }) rfl (fun _ => rfl)
    relation.onDelete?
  rw [Reads] at onDelete
  rw [ofMembers, onDelete]
  rfl

/-- A canonical declaration is read as it was written. -/
theorem Declaration.ofJson_toJson {declaration : Declaration} (h : declaration.Canonical)
    : ofJson declaration.toJson = .ok declaration := by
  cases declaration with
  | scalar type =>
      simp only [toJson, ofJson, ofWord, RelationKind.parse?_logicalName,
        LogicalType.parse?_name]
  | column declared =>
      obtain ⟨members, written, typed, read⟩ := declared.ofMembers_written
      simp only [toJson, written, ofJson, typed, ColumnType.parse?_word h,
        ColumnType.ofWord_word h, read]
  | relationTag kind => simp only [toJson, ofJson, ofWord, RelationKind.parse?_name]
  | relation declared =>
      obtain ⟨members, written, typed, read⟩ := Relation.ofMembers_written h
      simp only [toJson, written, ofJson, typed, RelationKind.parse?_name, read]

-----------------------------------------------------------------------------------------
-- What is read is canonical
-----------------------------------------------------------------------------------------

/-- A member leaves the type of a column, and only `default` has a part in its default. -/
theorem Column.readMember_keeps {column later : Column} {member : String × Json}
    (h : column.readMember member = .ok later)
    : later.type = column.type
      ∧ (later.default? = column.default? ∨ later.default? = some member.2) := by
  obtain ⟨name, value⟩ := member
  simp only [readMember] at h
  split at h <;> simp only [Except.bind_eq_ok_iff, Except.pure_eq_ok, Except.ok.injEq,
    reduceCtorEq] at h <;> grind

/-- A member leaves the target of a relation or is it. -/
theorem Relation.readMember_keeps {relation later : Relation} {member : String × Json}
    (h : relation.readMember member = .ok later)
    : later.target = relation.target ∨ later.target = Target.ofJson member.2 := by
  obtain ⟨name, value⟩ := member
  simp only [readMember] at h
  split at h <;> simp only [Except.bind_eq_ok_iff, Except.pure_eq_ok, Except.ok.injEq,
    reduceCtorEq] at h <;> grind

/-- A column has the type it is read with, and no default but the value of a member. -/
theorem Column.type_and_default_of_ofMembers {type : ColumnType} {members : Members Json}
    {column : Column} (h : ofMembers type members = .ok column)
    : column.type = type
      ∧ ∀ value, column.default? = some value → ∃ member ∈ members, member.2 = value := by
  refine List.foldlM_keeps
    (P := fun column => column.type = type
      ∧ ∀ value, column.default? = some value → ∃ member ∈ members, member.2 = value)
    ?_ ⟨rfl, by simp⟩ h
  intro member known before after kept read
  obtain ⟨sameType, sameDefault | fromMember⟩ := readMember_keeps read
  · rw [sameType, sameDefault]
    exact kept
  · rw [sameType, fromMember]
    exact ⟨kept.1, fun value same => ⟨member, known, Option.some.inj same⟩⟩

/-- The target of a relation is read from the value of a member. -/
theorem Relation.target_of_ofMembers {kind : RelationKind} {members : Members Json}
    {relation : Relation} (h : ofMembers kind members = .ok relation)
    : relation.target = .ofJson .null
      ∨ ∃ member ∈ members, relation.target = .ofJson member.2 := by
  unfold ofMembers at h
  obtain ⟨read, reads, complete⟩ := Except.bind_eq_ok_iff.mp h
  obtain rfl : read = relation := by
    split at complete
    · exact Except.ok.inj complete
    · contradiction
  refine List.foldlM_keeps
    (P := fun relation => relation.target = .ofJson .null
      ∨ ∃ member ∈ members, relation.target = .ofJson member.2)
    ?_ (Or.inl rfl) reads
  intro member known before after kept read
  rcases readMember_keeps read with same | fromMember
  · rw [same]
    exact kept
  · exact Or.inr ⟨member, known, fromMember⟩

/-- A word declares a scalar or the kind of a relation. -/
theorem Declaration.ofWord_eq_ok_cases {word : String} {declaration : Declaration}
    (h : ofWord word = .ok declaration)
    : (∃ type, declaration = .scalar type) ∨ ∃ kind, declaration = .relationTag kind := by
  unfold ofWord at h
  split at h
  · exact Or.inr ⟨_, (Except.ok.inj h).symm⟩
  · split at h
    · exact Or.inl ⟨_, (Except.ok.inj h).symm⟩
    · contradiction

/-- An object declares a relation, or a column whose type is no relation kind. -/
theorem Declaration.ofJson_object_eq_ok_cases {members : Members Json}
    {declaration : Declaration} (h : ofJson (.object members) = .ok declaration)
    : (∃ kind read,
        Relation.ofMembers kind members = .ok read ∧ declaration = .relation read)
      ∨ ∃ word read,
          RelationKind.parse? word = none
          ∧ Column.ofMembers (.ofWord word) members = .ok read
          ∧ declaration = .column read := by
  simp only [ofJson] at h
  split at h
  · split at h
    · split at h
      · rename_i kind _ _ read reads
        exact Or.inl ⟨kind, read, reads, (Except.ok.inj h).symm⟩
      · contradiction
    · split at h
      · rename_i word _ _ isColumn _ read reads
        exact Or.inr ⟨word, read, isColumn, reads, (Except.ok.inj h).symm⟩
      · contradiction
  · contradiction
  · contradiction

/-- Whatever is read is canonical. -/
theorem Declaration.canonical_of_ofJson {value : Json} {declaration : Declaration}
    (h : ofJson value = .ok declaration)
    : declaration.Canonical := by
  cases value with
  | string word =>
      rcases ofWord_eq_ok_cases h with ⟨type, rfl⟩ | ⟨kind, rfl⟩ <;> trivial
  | object members =>
      rcases ofJson_object_eq_ok_cases h with
        ⟨kind, read, reads, rfl⟩ | ⟨word, read, isColumn, reads, rfl⟩
      · change read.target.Canonical
        rcases Relation.target_of_ofMembers reads with target | ⟨member, _, target⟩ <;>
          exact target ▸ Target.canonical_ofJson _
      · change read.type.Canonical
        rw [(Column.type_and_default_of_ofMembers reads).1]
        exact ColumnType.canonical_ofWord isColumn
  | null | boolean _ | number _ | array _ => contradiction

/-- Writing and reading gives a declaration back exactly if it is canonical. -/
theorem Declaration.ofJson_toJson_eq_ok_iff (declaration : Declaration)
    : ofJson declaration.toJson = .ok declaration ↔ declaration.Canonical :=
  ⟨canonical_of_ofJson, ofJson_toJson⟩

-----------------------------------------------------------------------------------------
-- What is written of it repeats no name
-----------------------------------------------------------------------------------------

theorem Generation.distinct_toJson (generation : Generation) : generation.toJson.Distinct := by
  cases generation with
  | flag value => exact .boolean value
  | strategy strategy => exact .string _

theorem Cascade.distinct_toJson (cascade : Cascade) : cascade.toJson.Distinct := by
  cases cascade with
  | every value => exact .boolean value
  | only operations => exact Json.distinct_strings _

theorem Target.distinct_toJson_ofJson {value : Json} (h : value.Distinct)
    : (ofJson value).toJson.Distinct := by
  cases value with
  | string model => exact .string model
  | null | boolean _ | number _ | array _ | object _ => exact h

/-- A column repeats no name unless its default does. -/
theorem Column.distinct_toJson {column : Column}
    (h : ∀ value, column.default? = some value → value.Distinct)
    : column.toJson.Distinct := by
  refine Json.Among.distinct (?_ : Json.Among Column.members _) (by decide)
  exact Json.Among.one (.string _)
    |>.append (.flag _ _)
    |>.append (.given h)
    |>.append (.givenBy Generation.distinct_toJson _)
    |>.append (.flag _ _)
    |>.append (.flag _ _)
    |>.append (.flag _ _)
    |>.append (.flag _ _)
    |>.append (.flag _ _)
    |>.append (.givenBy Json.distinct_strings _)
    |>.append (.givenBy (fun _ => .number _) _)
    |>.append (.givenBy .string _)

/-- A relation repeats no name unless its target does. -/
theorem Relation.distinct_toJson {relation : Relation} (h : relation.target.toJson.Distinct)
    : relation.toJson.Distinct := by
  have cascade
      : Json.Among ["cascade"]
          (if relation.cascade = .every false then []
            else [("cascade", relation.cascade.toJson)]) := by
    split
    · exact .none _
    · exact .one relation.cascade.distinct_toJson
  refine Json.Among.distinct (?_ : Json.Among Relation.members _) (by decide)
  exact (Json.Among.one (.string _)).append (.one h)
    |>.append cascade
    |>.append (.flag _ _)
    |>.append (.flag _ _)
    |>.append (.flag _ _)
    |>.append (.givenBy .string _)
    |>.append (.givenBy .boolean _)
    |>.append (.givenBy .string _)

/-- A declaration that is read from a value without repeated names is written without any. -/
theorem Declaration.distinct_toJson {value : Json} (distinct : value.Distinct)
    {declaration : Declaration} (h : ofJson value = .ok declaration)
    : declaration.toJson.Distinct := by
  cases value with
  | string word =>
      rcases ofWord_eq_ok_cases h with ⟨type, rfl⟩ | ⟨kind, rfl⟩ <;> exact .string _
  | object members =>
      cases distinct with
      | object names each =>
          rcases ofJson_object_eq_ok_cases h with
            ⟨kind, read, reads, rfl⟩ | ⟨word, read, isColumn, reads, rfl⟩
          · refine Relation.distinct_toJson ?_
            rcases Relation.target_of_ofMembers reads with target | ⟨member, known, target⟩
            · exact target ▸ .null
            · exact target ▸ Target.distinct_toJson_ofJson (each member known)
          · refine Column.distinct_toJson fun value declared => ?_
            obtain ⟨member, known, rfl⟩ :=
              (Column.type_and_default_of_ofMembers reads).2 value declared
            exact each member known
  | null | boolean _ | number _ | array _ => contradiction

end EntityViews
