import EntityViews.Proofs.Declaration.RoundTrip
import EntityViews.Proofs.Source.Written

/-! The grammar of declarations.
A value declares a field by a word, or by an object whose members are all known and each written
in one of a few ways. The reader accepts just these values and reads each as it is written.
-/

namespace EntityViews

open Json (Spelling Chooses Nullable IsFlag IsText IsTexts IsNumber)

-----------------------------------------------------------------------------------------
-- What the members of columns and relations are written as
-----------------------------------------------------------------------------------------

variable {spelling : Spelling} {value : Json} {name : String} {members : Members Json}

/-- A generation is written as a boolean or by the word of a strategy. -/
inductive Generation.WrittenAs (spelling : Spelling) : Json → Generation → Prop
  | flag (flag : Bool) : WrittenAs spelling (.boolean flag) (.flag flag)
  | strategy {value : Json} {strategy : Strategy} (h : spelling value strategy.name)
    : WrittenAs spelling value (.strategy strategy)

/-- A cascade is written as a boolean or as the list of the words of its operations. -/
inductive Cascade.WrittenAs (spelling : Spelling) : Json → Cascade → Prop
  | every (all : Bool) : WrittenAs spelling (.boolean all) (.every all)
  | only {items : List Json} {operations : List Operation}
    (h : List.Forall₂ (fun item operation => spelling item operation.name) items operations)
    : WrittenAs spelling (.array items) (.only operations)

namespace Column

/-- The options of a column, each with how its member is written. An option that is null is
unset, except for the default.
-/
def parts (spelling : Spelling) : List (Json.Part Column) :=
  [
    { name := "nullable", written := IsFlag, default := false, get := nullable },
    { name := "default", written := fun value given? => given? = some value, default := none,
      get := default? },
    { name := "generated", written := Nullable (Generation.WrittenAs spelling), default := none,
      get := generated? },
    { name := "primary", written := IsFlag, default := false, get := primary },
    { name := "unique", written := IsFlag, default := false, get := unique },
    { name := "createDate", written := IsFlag, default := false, get := createDate },
    { name := "updateDate", written := IsFlag, default := false, get := updateDate },
    { name := "deleteDate", written := IsFlag, default := false, get := deleteDate },
    { name := "enum", written := Nullable IsTexts, default := none, get := values? },
    { name := "length", written := Nullable IsNumber, default := none, get := length? },
    { name := "comment", written := Nullable IsText, default := none, get := comment? }
  ]

/-- The members of an object are known, and each option of the column is what the member of its
name says, or unset if there is none.
-/
def DeclaredBy (spelling : Spelling) (members : Members Json) (column : Column) : Prop :=
  (∀ name ∈ members.names, name ∈ Column.members)
    ∧ ∀ part ∈ parts spelling, part.IsDeclared members column

end Column

namespace Relation

/-- The options of a relation, each with how its member is written. Any value is a target. -/
def parts (spelling : Spelling) : List (Json.Part Relation) :=
  [
    { name := "target", written := fun value target => target = .ofJson value,
      default := .reference .null, get := target },
    { name := "cascade", written := Cascade.WrittenAs spelling, default := .every false,
      get := cascade },
    { name := "eager", written := IsFlag, default := false, get := eager },
    { name := "joinColumn", written := IsFlag, default := false, get := joinColumn },
    { name := "joinTable", written := IsFlag, default := false, get := joinTable },
    { name := "inverseSide", written := Nullable IsText, default := none, get := inverseSide? },
    { name := "nullable", written := Nullable IsFlag, default := none, get := nullable? },
    { name := "onDelete", written := Nullable IsText, default := none, get := onDelete? }
  ]

/-- The members of an object are known, a target is among them, and each option of the relation
is what the member of its name says, or unset if there is none.
-/
def DeclaredBy (spelling : Spelling) (members : Members Json) (relation : Relation) : Prop :=
  (∀ name ∈ members.names, name ∈ Relation.members)
    ∧ "target" ∈ members.names
    ∧ ∀ part ∈ parts spelling, part.IsDeclared members relation

end Relation

/-- The value declares the field. A word is a relation kind or a logical type; the word under the
type of an object is a relation kind, or else a logical type or the name of a storage type.
-/
inductive Json.Declares (spelling : Spelling) : Json → Declaration → Prop
  | relationTag {word : String} {kind : RelationKind} (h : RelationKind.parse? word = some kind)
    : Declares spelling (.string word) (.relationTag kind)
  | scalar {word : String} {type : LogicalType} (h : LogicalType.parse? word = some type)
    : Declares spelling (.string word) (.scalar type)
  | relation {members : Members Json} {word : String} {declared : Relation}
    (typed : members.lookup "type" = some (.string word))
    (kind : RelationKind.parse? word = some declared.kind)
    (options : declared.DeclaredBy spelling members)
    : Declares spelling (.object members) (.relation declared)
  | column {members : Members Json} {word : String} {declared : Column}
    (typed : members.lookup "type" = some (.string word))
    (other : RelationKind.parse? word = none) (type : declared.type = .ofWord word)
    (options : declared.DeclaredBy spelling members)
    : Declares spelling (.object members) (.column declared)

-----------------------------------------------------------------------------------------
-- Reading one member
-----------------------------------------------------------------------------------------

theorem Generation.accepts_ofJson : Json.Accepts ofJson (WrittenAs Chooses) := by
  intro value generation
  constructor
  · intro read
    unfold ofJson at read
    split at read
    · obtain rfl := Except.ok.inj read
      exact .flag _
    · split at read
      · rename_i strategy chosen
        obtain rfl := Except.ok.inj read
        exact .strategy ((Json.bind_choice?_eq_some_iff Strategy.parse?_eq_some_iff).mp chosen)
      · contradiction
  · rintro (_ | ⟨chooses⟩)
    · rfl
    · have chosen := (Json.bind_choice?_eq_some_iff Strategy.parse?_eq_some_iff).mpr chooses
      cases chooses with
      | word | member => simp [ofJson, chosen]

theorem Generation.accepts_optional
    : Json.Accepts (Json.readOptional ofJson) (Nullable (WrittenAs Chooses)) :=
  accepts_ofJson.optional (by rintro _ (_ | ⟨⟨⟩⟩))

theorem Cascade.accepts_ofJson : Json.Accepts ofJson (WrittenAs Chooses) := by
  intro value cascade
  have chosen (items : List Json) (operations : List Operation)
      : items.mapM (fun item => item.choice?.bind Operation.parse?) = some operations
        ↔ List.Forall₂ (fun item operation => Chooses item operation.name) items
            operations := by
    rw [List.mapM_eq_some_iff]
    simp only [Json.bind_choice?_eq_some_iff Operation.parse?_eq_some_iff]
  constructor
  · intro read
    unfold ofJson at read
    split at read
    · obtain rfl := Except.ok.inj read
      exact .every _
    · split at read
      · rename_i operations found
        obtain rfl := Except.ok.inj read
        exact .only ((chosen _ _).mp found)
      · contradiction
    · contradiction
  · rintro (_ | ⟨each⟩)
    · rfl
    · simp only [ofJson, (chosen _ _).mpr each]

-----------------------------------------------------------------------------------------
-- Reading the members
-----------------------------------------------------------------------------------------

namespace Column

/-- A member that is taken is known, and sets just the option of its name. -/
theorem sets_of_readMember {column later : Column} {member : String × Json}
    (h : column.readMember member = .ok later)
    : later.type = column.type
      ∧ member.1 ∈ Column.members
      ∧ ∀ part ∈ parts Chooses, part.IsSet member column later := by
  obtain ⟨name, value⟩ := member
  simp only [readMember] at h
  split at h <;> simp only [Except.bind_eq_ok_iff, Except.pure_eq_ok, Except.ok.injEq,
    reduceCtorEq, Json.accepts_readFlag _ _, Generation.accepts_optional _ _,
    Json.accepts_optionalTexts _ _, Json.accepts_optionalWord _ _,
    Json.accepts_optionalText _ _] at h
  -- The type sets nothing here, and the default takes any value.
  case h_1 | h_3 =>
    subst h
    simp [Column.members, parts, Json.Part.IsSet]
  all_goals
    obtain ⟨_, written, rfl⟩ := h
    simp [Column.members, parts, Json.Part.IsSet, written]

/-- A known member is taken if it is written as the option of its name, by cases on the name. -/
theorem exists_readMember {column : Column} (known : name ∈ Column.members)
    (h : ∀ part ∈ parts Chooses, part.name = name → ∃ result, part.written value result)
    : ∃ later, column.readMember (name, value) = .ok later := by
  simp only [Column.members, List.mem_cons, List.not_mem_nil, or_false] at known
  rcases known with rfl | rfl | rfl | rfl | rfl | rfl | rfl | rfl | rfl | rfl | rfl | rfl
  case inl | inr.inr.inl => exact ⟨_, rfl⟩
  all_goals
    simp only [parts, List.forall_mem_cons, String.reduceEq, forall_const, IsEmpty.forall_iff,
      true_and] at h
    obtain ⟨result, written⟩ := h.1
    simp only [readMember, Except.bind_eq_ok_iff, Json.accepts_readFlag _ _,
      Generation.accepts_optional _ _, Json.accepts_optionalTexts _ _,
      Json.accepts_optionalWord _ _, Json.accepts_optionalText _ _]
    exact ⟨_, _, written, rfl⟩

theorem unambiguous : ∀ part ∈ parts Chooses, Json.Unambiguous part.written := by
  have default : Json.Unambiguous fun value given? => given? = some value :=
    fun _ _ _ first second => first.trans second.symm
  simp only [parts, List.forall_mem_cons]
  simp [Json.accepts_readFlag.unambiguous, Generation.accepts_optional.unambiguous,
    Json.accepts_optionalTexts.unambiguous, Json.accepts_optionalWord.unambiguous,
    Json.accepts_optionalText.unambiguous, default]

/-- The parts and the type make up a column. -/
theorem eq_of_parts {first second : Column} (type : first.type = second.type)
    (h : ∀ part ∈ parts Chooses, part.get first = part.get second)
    : first = second := by
  cases first
  cases second
  simp_all [parts]

/-- The members of an object are read as the column that they declare. -/
theorem ofMembers_eq_ok_iff {type : ColumnType} (names : members.names.Nodup)
    {column : Column}
    : ofMembers type members = .ok column
      ↔ column.type = type ∧ column.DeclaredBy Chooses members := by
  refine Reads.iff_isDeclared (P := fun column => column.type = type) ?start ?sets ?takes
    unambiguous ?complete names
  case start => simp [parts]
  case sets =>
    intro column member later taken
    obtain ⟨kept, sets⟩ := sets_of_readMember taken
    exact ⟨kept.trans, sets⟩
  case takes => exact fun column name value known written => exists_readMember known written
  case complete =>
    intro first second isFirst isSecond same
    exact eq_of_parts (isFirst.trans isSecond.symm) same

end Column

namespace Relation

/-- A member that is taken is known, and sets just the option of its name. -/
theorem sets_of_readMember {relation later : Relation} {member : String × Json}
    (h : relation.readMember member = .ok later)
    : later.kind = relation.kind
      ∧ member.1 ∈ Relation.members
      ∧ ∀ part ∈ parts Chooses, part.IsSet member relation later := by
  obtain ⟨name, value⟩ := member
  simp only [readMember] at h
  split at h <;> simp only [Except.bind_eq_ok_iff, Except.pure_eq_ok, Except.ok.injEq,
    reduceCtorEq, Json.accepts_readFlag _ _, Cascade.accepts_ofJson _ _,
    Json.accepts_optionalText _ _, Json.accepts_optionalFlag _ _] at h
  -- The type sets nothing here, and the target takes any value.
  case h_1 | h_2 =>
    subst h
    simp [Relation.members, parts, Json.Part.IsSet]
  all_goals
    obtain ⟨_, written, rfl⟩ := h
    simp [Relation.members, parts, Json.Part.IsSet, written]

/-- A known member is taken if it is written as the option of its name, by cases on the name. -/
theorem exists_readMember {relation : Relation} (known : name ∈ Relation.members)
    (h : ∀ part ∈ parts Chooses, part.name = name → ∃ result, part.written value result)
    : ∃ later, relation.readMember (name, value) = .ok later := by
  simp only [Relation.members, List.mem_cons, List.not_mem_nil, or_false] at known
  rcases known with rfl | rfl | rfl | rfl | rfl | rfl | rfl | rfl | rfl
  case inl | inr.inl => exact ⟨_, rfl⟩
  all_goals
    simp only [parts, List.forall_mem_cons, String.reduceEq, forall_const, IsEmpty.forall_iff,
      true_and] at h
    obtain ⟨result, written⟩ := h.1
    simp only [readMember, Except.bind_eq_ok_iff, Json.accepts_readFlag _ _,
      Cascade.accepts_ofJson _ _, Json.accepts_optionalText _ _, Json.accepts_optionalFlag _ _]
    exact ⟨_, _, written, rfl⟩

theorem unambiguous : ∀ part ∈ parts Chooses, Json.Unambiguous part.written := by
  have target : Json.Unambiguous fun value target => target = Target.ofJson value :=
    fun _ _ _ first second => first.trans second.symm
  simp only [parts, List.forall_mem_cons]
  simp [Json.accepts_readFlag.unambiguous, Cascade.accepts_ofJson.unambiguous,
    Json.accepts_optionalText.unambiguous, Json.accepts_optionalFlag.unambiguous, target]

/-- The parts and the kind make up a relation. -/
theorem eq_of_parts {first second : Relation} (kind : first.kind = second.kind)
    (h : ∀ part ∈ parts Chooses, part.get first = part.get second)
    : first = second := by
  cases first
  cases second
  simp_all [parts]

/-- The members of an object with a target are read as the relation that they declare. -/
theorem ofMembers_eq_ok_iff {kind : RelationKind} (names : members.names.Nodup)
    {relation : Relation}
    : ofMembers kind members = .ok relation
      ↔ relation.kind = kind ∧ relation.DeclaredBy Chooses members := by
  have reads (after : Relation)
      : Reads readMember members { kind, target := .reference .null } after
        ↔ after.kind = kind
          ∧ (∀ name ∈ members.names, name ∈ Relation.members)
          ∧ ∀ part ∈ parts Chooses, part.IsDeclared members after := by
    refine Reads.iff_isDeclared (P := fun relation => relation.kind = kind) ?start ?sets ?takes
      unambiguous ?complete names
    case start => simp [parts]
    case sets =>
      intro relation member later taken
      obtain ⟨kept, sets⟩ := sets_of_readMember taken
      exact ⟨kept.trans, sets⟩
    case takes => exact fun relation name value known written => exists_readMember known written
    case complete =>
      intro first second isFirst isSecond same
      exact eq_of_parts (isFirst.trans isSecond.symm) same
  have present
      : (members.any fun member => member.1 == "target") = true
        ↔ "target" ∈ members.names := by
    simp [Members.names]
  constructor
  · intro read
    obtain ⟨after, taken, checked⟩ := Except.bind_eq_ok_iff.mp read
    split at checked
    · rename_i found
      obtain rfl := Except.ok.inj checked
      obtain ⟨sameKind, known, declared⟩ := (reads _).mp taken
      exact ⟨sameKind, known, present.mp found, declared⟩
    · contradiction
  · rintro ⟨sameKind, known, target, declared⟩
    refine Except.bind_eq_ok_iff.mpr ⟨relation, (reads _).mpr ⟨sameKind, known, declared⟩, ?_⟩
    rw [if_pos (present.mpr target)]
    rfl

end Relation

-----------------------------------------------------------------------------------------
-- Reading a declaration
-----------------------------------------------------------------------------------------

namespace Declaration

theorem ofWord_eq_ok_iff {word : String} {declaration : Declaration}
    : ofWord word = .ok declaration ↔ (Json.string word).Declares Chooses declaration := by
  constructor
  · intro read
    unfold ofWord at read
    split at read
    · rename_i parsed
      obtain rfl := Except.ok.inj read
      exact .relationTag parsed
    · split at read
      · rename_i parsed
        obtain rfl := Except.ok.inj read
        exact .scalar parsed
      · contradiction
  · intro declares
    cases declares with
    | relationTag parsed => simp only [ofWord, parsed]
    | scalar parsed =>
        simp only [ofWord, parsed, RelationKind.parse?_eq_none_of_logical parsed]

/-- A value that repeats no name is read as the declaration that it makes. -/
theorem ofJson_eq_ok_iff (distinct : value.Distinct) {declaration : Declaration}
    : ofJson value = .ok declaration ↔ value.Declares Chooses declaration := by
  cases value with
  | string word => exact ofWord_eq_ok_iff
  | object members =>
      have names := (Json.distinct_object_iff.mp distinct).1
      constructor
      · intro read
        simp only [ofJson] at read
        split at read
        · rename_i word typed
          split at read
          · rename_i kind parsed
            split at read
            · rename_i declared reads
              obtain rfl := Except.ok.inj read
              obtain ⟨rfl, options⟩ := (Relation.ofMembers_eq_ok_iff names).mp reads
              exact .relation typed parsed options
            · contradiction
          · rename_i other
            split at read
            · rename_i declared reads
              obtain rfl := Except.ok.inj read
              obtain ⟨type, options⟩ := (Column.ofMembers_eq_ok_iff names).mp reads
              exact .column typed other type options
            · contradiction
        · contradiction
        · contradiction
      · intro declares
        cases declares with
        | relation typed kind options =>
            have reads := (Relation.ofMembers_eq_ok_iff names).mpr ⟨rfl, options⟩
            simp only [ofJson, typed, kind, reads]
        | column typed other type options =>
            have reads := (Column.ofMembers_eq_ok_iff names).mpr ⟨type, options⟩
            simp only [ofJson, typed, other, reads]
  | null | boolean _ | number _ | array _ =>
      constructor
      · intro read
        contradiction
      · intro declares
        cases declares

/-- Declarations are read by their grammar, from values and from the texts they come from. No
word is both a relation kind and a logical type, so a word declares one thing only.
-/
theorem reads_grammar
    : (∀ word kind type,
        ¬ (RelationKind.parse? word = some kind ∧ LogicalType.parse? word = some type))
      ∧ (∀ value : Json,
          value.Distinct
          → ∀ declaration,
              ofJson value = .ok declaration ↔ value.Declares Chooses declaration)
      ∧ ∀ source declaration,
          Source.readDeclaration source = .ok declaration
          ↔ ∃ value, source.toJson? = some value ∧ value.Declares Chooses declaration := by
  refine ⟨?words, fun value distinct declaration => ofJson_eq_ok_iff distinct, ?sources⟩
  case words =>
    rintro word kind type ⟨isKind, isType⟩
    have none := RelationKind.parse?_eq_none_of_logical isType
    rw [isKind] at none
    contradiction
  case sources =>
    intro source declaration
    constructor
    · intro read
      unfold Source.readDeclaration at read
      split at read
      · contradiction
      · rename_i value told
        split at read
        · rename_i found reads
          obtain rfl := Except.ok.inj read
          exact ⟨value, told, (ofJson_eq_ok_iff (Source.distinct_of_toJson? told)).mp reads⟩
        · contradiction
    · rintro ⟨value, told, declares⟩
      have reads := (ofJson_eq_ok_iff (Source.distinct_of_toJson? told)).mpr declares
      simp only [Source.readDeclaration, told, reads]

/-- A relation that spells its kind loosely and its cascade in both ways. -/
def looseRelation : Json :=
  .object
    [
      ("type", .string "MANY_TO_ONE"),
      ("target", .string "Author"),
      ("cascade", .array [.object [("insert", .null)], .string "soft-remove"]),
      ("onDelete", .null)
    ]

theorem distinct_looseRelation : looseRelation.Distinct := by
  refine .object (by decide) ?_
  simp only [List.forall_mem_cons, List.not_mem_nil, IsEmpty.forall_iff, implies_true, and_true]
  refine ⟨.string _, .string _, .array ?_, .null⟩
  simp only [List.forall_mem_cons, List.not_mem_nil, IsEmpty.forall_iff, implies_true, and_true]
  exact ⟨.object (by decide) (by simp [Json.Distinct.null]), .string _⟩

theorem reads_grammar_looseRelation
    : looseRelation.Distinct
      ∧ looseRelation.Declares Chooses
          (.relation
            {
              kind := .manyToOne, target := .name "Author",
              cascade := .only [.insert, .softRemove]
            }) := by
  refine ⟨distinct_looseRelation, (reads_grammar.2.1 _ distinct_looseRelation _).mp ?_⟩
  rfl

/-- Not only plain words are read: the words of a cascade may also stand as members. -/
theorem not_reads_plainWords
    : ¬ ∀ value : Json,
        value.Distinct
        → ((∃ declaration, ofJson value = .ok declaration)
          ↔ ∃ declaration, value.Declares Json.IsWord declaration) := by
  intro plain
  have unwritten (cascade : Cascade)
      : ¬ Cascade.WrittenAs Json.IsWord
          (.array [.object [("insert", .null)], .string "soft-remove"]) cascade := by
    rintro (_ | ⟨_ | ⟨first, rest⟩⟩)
    cases first
  obtain ⟨declaration, declares⟩ :=
    (plain looseRelation distinct_looseRelation).mp ⟨_, rfl⟩
  cases declares with
  | relation typed kind options =>
      obtain ⟨-, -, declared⟩ := options
      have cascade := declared _ (.tail _ (.head _))
      exact unwritten _ (cascade.written rfl)
  | column typed other type options =>
      cases typed
      cases other

end Declaration

end EntityViews
