import EntityViews.Source.Reader

/-! Options of an entity that are handed to the database layer as they are.
-/

namespace EntityViews

/-- The direction in which records are sorted. -/
inductive SortOrder where
  | ascending
  | descending
deriving DecidableEq, Repr, Inhabited

namespace SortOrder

def name : SortOrder → String
  | .ascending => "ASC"
  | .descending => "DESC"

def ofWord (word : String) : Read SortOrder :=
  if word = name .ascending then .ok .ascending
  else if word = name .descending then .ok .descending
  else .error (.mismatch (.unknownVariant word [name .ascending, name .descending]))

/-- Checks the value beside the word of a direction written as a table: it has to be empty. -/
def expectNothing : Source → Read Unit
  | .blocks [] => .ok ()
  | .blocks _ => .error (.mismatch (.wantedEmpty true))
  | .array [] _ => .ok ()
  | .array .. => .error (.mismatch (.wantedEmpty false))
  | .object [] _ => .ok ()
  | .object .. => .error (.mismatch (.wantedEmpty false))
  | .string _ => .error (.mismatch (.wantedTable "string"))
  | .integer _ => .error (.mismatch (.wantedTable "integer"))
  | .boolean _ => .error (.mismatch (.wantedTable "boolean"))
  | .datetime _ => .error (.mismatch (.wantedTable "datetime"))
  | _ => .error (.mismatch (.wantedTable "float"))

/-- A direction in a JSON text: a word, or an object with the word as its only member. -/
def readJson : Source → Read SortOrder
  | .string word => ofWord word
  | .object ((word, value) :: rest) closed => do
      let order ← ofWord word
      match value with
      | .null => Source.afterClosing (closed && rest.isEmpty) order
      | value => value.unlike "unit"
  | _ => .error .malformed

/-- A direction in a TOML text: a word, or a table with the word as its only key. -/
def readToml : Source → Read SortOrder
  | .string word => ofWord word
  | .object [] _ => .error (.mismatch (.wantedOneMember false))
  | .object [(word, value)] _ => do
      let order ← ofWord word
      expectNothing value
      return order
  | .object .. => .error (.mismatch (.wantedOneMember true))
  | _ => .error (.mismatch .wantedTextOrTable)

def read : Format → Source → Read SortOrder
  | .json => readJson
  | .toml => readToml

end SortOrder

/-- The options of an entity. -/
structure EntityOptions where
  tableName? : Option String := none
  database? : Option String := none
  schema? : Option String := none
  synchronize? : Option Bool := none
  orderBy? : Option (OrderedMap SortOrder) := none
deriving Inhabited, BEq

namespace EntityOptions

/-- The members that records are sorted by, each with its direction. -/
def orderByToJson (orderBy : OrderedMap SortOrder) : Json :=
  .object (orderBy.entries.map fun entry => (entry.1, .string entry.2.name))

/-- The options as members of a JSON object; unset ones are left out. -/
def toMembers (options : EntityOptions) : Members Json :=
  Json.given "tableName" (options.tableName?.map Json.string)
    ++ Json.given "database" (options.database?.map Json.string)
    ++ Json.given "schema" (options.schema?.map Json.string)
    ++ Json.given "synchronize" (options.synchronize?.map Json.boolean)
    ++ Json.given "orderBy" (options.orderBy?.map orderByToJson)

def toJson (options : EntityOptions) : Json :=
  .object options.toMembers

def record (format : Format) : Source.Record EntityOptions :=
  {
    title := "RepoOptions",
    strict := true,
    fields := [
      ⟨"tableName", fun options source =>
        return { options with tableName? := ← source.readOptional Source.readText }⟩,
      ⟨"database", fun options source =>
        return { options with database? := ← source.readOptional Source.readText }⟩,
      ⟨"schema", fun options source =>
        return { options with schema? := ← source.readOptional Source.readText }⟩,
      ⟨"synchronize", fun options source =>
        return { options with synchronize? := ← source.readOptional Source.readFlag }⟩,
      ⟨"orderBy", fun options source =>
        return {
          options with
          orderBy? := ← source.readOptional (Source.readMap (SortOrder.read format))
        }⟩
    ]
  }

def read (format : Format) (source : Source) : Read EntityOptions :=
  (record format).read format {} source

end EntityOptions

end EntityViews
