import EntityViews.Declaration
import EntityViews.Mismatch

/-! Declarations read from JSON.
The word under `type` decides between a column and a relation; then the members are checked one
after another, and the first that does not fit is reported.
-/

namespace EntityViews

/-- Why a value declares no field. -/
inductive DeclarationError where
  /-- Neither a word nor an object. -/
  | noVariant
  /-- A word that is no logical type and no relation kind. -/
  | unknownTag (word : String)
  | typeNotText
  | typeMissing
  | column (problem : Mismatch)
  | relation (problem : Mismatch)
deriving DecidableEq, Repr

def DeclarationError.message : DeclarationError → String
  | .noVariant => (Mismatch.noVariant "RawDeclaration").message .json
  | .unknownTag word =>
      s!"unknown field type '{word}'; raw storage types need the form "
        ++ "\x7b type = \"" ++ word ++ "\" \x7d"
  | .typeNotText => "field 'type' must be a string"
  | .typeMissing => "missing field 'type'"
  | .column problem => "invalid column declaration: " ++ problem.message .json
  | .relation problem => "invalid relation declaration: " ++ problem.message .json

namespace Json

def found : Json → Found
  | .null => .null
  | .boolean value => .boolean value
  | .number (.integer value) => .integer value
  | .number (.real value) => .real value
  | .string value => .string value
  | .array _ => .sequence
  | .object _ => .map

/-- The complaint that a value is not of the expected kind. -/
def unlike (value : Json) (expected : String) : Except Mismatch α :=
  .error (.invalidType value.found expected)

def readFlag : Json → Except Mismatch Bool
  | .boolean value => .ok value
  | value => value.unlike "a boolean"

def readText : Json → Except Mismatch String
  | .string value => .ok value
  | value => value.unlike "a string"

def readTexts : Json → Except Mismatch (List String)
  | .array items => items.mapM readText
  | value => value.unlike "a sequence"

/-- An integer of 32 bits without a sign. -/
def readWord : Json → Except Mismatch UInt32
  | .number (.integer value) =>
      if 0 ≤ value ∧ value.toNat < UInt32.size then .ok (.ofNat value.toNat)
      else .error (.invalidValue value "u32")
  | value => value.unlike "u32"

/-- A value that may be null, which stands for its absence. -/
def readOptional (read : Json → Except Mismatch α) : Json → Except Mismatch (Option α)
  | .null => .ok none
  | value => some <$> read value

/-- The word that chooses among alternatives: a string, or the only member of an object, which
must then be null.
-/
def choice? : Json → Option String
  | .string word => some word
  | .object [(word, .null)] => some word
  | _ => none

end Json

def Strategy.parse? : String → Option Strategy
  | "increment" => some .increment
  | "uuid" => some .uuid
  | "rowid" => some .rowid
  | _ => none

def Operation.parse? (word : String) : Option Operation :=
  Operation.all.find? fun operation => operation.name == word

/-- A generation setting: a boolean or a strategy. -/
def Generation.ofJson : Json → Except Mismatch Generation
  | .boolean value => .ok (.flag value)
  | value =>
      match value.choice?.bind Strategy.parse? with
      | some named => .ok (.strategy named)
      | none => .error (.noVariant "Generated")

/-- A cascade: a boolean or a list of operations. -/
def Cascade.ofJson : Json → Except Mismatch Cascade
  | .boolean value => .ok (.every value)
  | .array items =>
      match items.mapM fun item => item.choice?.bind Operation.parse? with
      | some operations => .ok (.only operations)
      | none => .error (.noVariant "Cascade")
  | _ => .error (.noVariant "Cascade")

namespace Column

def members : List String :=
  [
    "type", "nullable", "default", "generated", "primary", "unique", "createDate",
    "updateDate", "deleteDate", "enum", "length", "comment"
  ]

/-- The column after a member has been read; its type has been read before. -/
def readMember (column : Column) (member : String × Json) : Except Mismatch Column :=
  let (name, value) := member
  match name with
  | "type" => .ok column
  | "nullable" => return { column with nullable := ← value.readFlag }
  | "default" => .ok { column with default? := some value }
  | "generated" => return { column with generated? := ← value.readOptional Generation.ofJson }
  | "primary" => return { column with primary := ← value.readFlag }
  | "unique" => return { column with unique := ← value.readFlag }
  | "createDate" => return { column with createDate := ← value.readFlag }
  | "updateDate" => return { column with updateDate := ← value.readFlag }
  | "deleteDate" => return { column with deleteDate := ← value.readFlag }
  | "enum" => return { column with values? := ← value.readOptional Json.readTexts }
  | "length" => return { column with length? := ← value.readOptional Json.readWord }
  | "comment" => return { column with comment? := ← value.readOptional Json.readText }
  | _ => .error (.unknownField name members)

def ofMembers (type : ColumnType) (found : List (String × Json)) : Except Mismatch Column :=
  found.foldlM readMember { type }

end Column

namespace Relation

def members : List String :=
  [
    "type", "target", "cascade", "eager", "joinColumn", "joinTable", "inverseSide",
    "nullable", "onDelete"
  ]

/-- The relation after a member has been read; its kind has been read before. -/
def readMember (relation : Relation) (member : String × Json) : Except Mismatch Relation :=
  let (name, value) := member
  match name with
  | "type" => .ok relation
  | "target" => .ok { relation with target := Target.ofJson value }
  | "cascade" => return { relation with cascade := ← Cascade.ofJson value }
  | "eager" => return { relation with eager := ← value.readFlag }
  | "joinColumn" => return { relation with joinColumn := ← value.readFlag }
  | "joinTable" => return { relation with joinTable := ← value.readFlag }
  | "inverseSide" => return { relation with inverseSide? := ← value.readOptional Json.readText }
  | "nullable" => return { relation with nullable? := ← value.readOptional Json.readFlag }
  | "onDelete" => return { relation with onDelete? := ← value.readOptional Json.readText }
  | _ => .error (.unknownField name members)

/-- A relation of the given kind with the given members, a target among them. -/
def ofMembers (kind : RelationKind) (found : List (String × Json))
    : Except Mismatch Relation := do
  let relation ← found.foldlM readMember { kind, target := .reference .null }
  if found.any fun member => member.1 == "target" then return relation
  else throw (.missingField "target")

end Relation

def Declaration.ofWord (word : String) : Except DeclarationError Declaration :=
  match RelationKind.parse? word with
  | some kind => .ok (.relationTag kind)
  | none =>
      match LogicalType.parse? word with
      | some type => .ok (.scalar type)
      | none => .error (.unknownTag word)

def Declaration.ofJson : Json → Except DeclarationError Declaration
  | .string word => ofWord word
  | .object members =>
      match members.lookup "type" with
      | some (.string word) =>
          match RelationKind.parse? word with
          | some kind =>
              match Relation.ofMembers kind members with
              | .ok declared => .ok (.relation declared)
              | .error problem => .error (.relation problem)
          | none =>
              match Column.ofMembers (.ofWord word) members with
              | .ok declared => .ok (.column declared)
              | .error problem => .error (.column problem)
      | some _ => .error .typeNotText
      | none => .error .typeMissing
  | _ => .error .noVariant

end EntityViews
