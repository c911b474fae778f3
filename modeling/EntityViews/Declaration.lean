import EntityViews.Declaration.Tag
import EntityViews.Json

/-! Fields of a model as they are declared.
A field is a column or a relation, each either by a bare word or in full; a bare relation can be
written down but never compiled.
-/

namespace EntityViews

/-- How a database makes up the value of a column. -/
inductive Strategy where
  | increment
  | uuid
  | rowid
deriving DecidableEq, Repr, Inhabited

def Strategy.name : Strategy → String
  | .increment => "increment"
  | .uuid => "uuid"
  | .rowid => "rowid"

/-- Whether and how a column is generated. -/
inductive Generation where
  | flag (value : Bool)
  | strategy (value : Strategy)
deriving DecidableEq, Repr, Inhabited

def Generation.isGenerated : Generation → Bool
  | .flag value => value
  | .strategy _ => true

/-- What may be done to a related record along with the record itself. -/
inductive Operation where
  | insert
  | update
  | remove
  | softRemove
  | recover
deriving DecidableEq, Repr, Inhabited

namespace Operation

def all : List Operation :=
  [.insert, .update, .remove, .softRemove, .recover]

def name : Operation → String
  | .insert => "insert"
  | .update => "update"
  | .remove => "remove"
  | .softRemove => "soft-remove"
  | .recover => "recover"

end Operation

/-- The operations that spread over a relation: all or none of them, or a list. -/
inductive Cascade where
  | every (value : Bool)
  | only (operations : List Operation)
deriving DecidableEq, Repr, Inhabited

def Cascade.includes : Cascade → Operation → Bool
  | .every value, _ => value
  | .only operations, operation => operations.contains operation

/-- A column declared in full. -/
structure Column where
  type : ColumnType
  nullable : Bool := false
  /-- A default may be declared to be null, which is not the same as no default. -/
  default? : Option Json := none
  generated? : Option Generation := none
  primary : Bool := false
  unique : Bool := false
  createDate : Bool := false
  updateDate : Bool := false
  deleteDate : Bool := false
  values? : Option (List String) := none
  length? : Option UInt32 := none
  comment? : Option String := none
deriving Inhabited, BEq

/-- What a relation points to: the name of a model, or data that cannot be resolved. -/
inductive Target where
  | name (model : String)
  | reference (value : Json)
deriving Inhabited, BEq

/-- The target that a value declares: a string is a name, anything else a reference. -/
def Target.ofJson : Json → Target
  | .string model => .name model
  | value => .reference value

/-- A relation declared in full. -/
structure Relation where
  kind : RelationKind
  target : Target
  cascade : Cascade := .every false
  eager : Bool := false
  joinColumn : Bool := false
  joinTable : Bool := false
  inverseSide? : Option String := none
  nullable? : Option Bool := none
  onDelete? : Option String := none
deriving Inhabited, BEq

/-- A declared field. -/
inductive Declaration where
  /-- A column by its logical type alone. -/
  | scalar (type : LogicalType)
  | column (column : Column)
  /-- A relation by its kind alone, which says too little to be compiled. -/
  | relationTag (kind : RelationKind)
  | relation (relation : Relation)
deriving Inhabited, BEq

/-- The declared fields of a model, in order. -/
abbrev Fields := OrderedMap Declaration

end EntityViews
