import EntityViews.Declaration

/-! Entities: the columns and relations of a model as a database layer takes them.
Every entity has the primary column `id`; all other names are those of the declared fields.
-/

namespace EntityViews

/-- The type of a column in the database. -/
inductive StorageType where
  | varchar
  | integer
  | float
  | double
  | real
  | date
  | boolean
  /-- JSON kept in a text column. -/
  | simpleJson
  /-- A text column restricted to the declared values. -/
  | simpleEnum
  /-- The type that the declaration names. -/
  | raw (storage : String)
deriving DecidableEq, Repr, Inhabited

namespace StorageType

def name : StorageType → String
  | .varchar => "varchar"
  | .integer => "integer"
  | .float => "float"
  | .double => "double"
  | .real => "real"
  | .date => "date"
  | .boolean => "boolean"
  | .simpleJson => "simple-json"
  | .simpleEnum => "simple-enum"
  | .raw storage => storage

/-- How a logical type is stored; of a file only a reference is stored, as JSON. -/
def ofLogical : LogicalType → StorageType
  | .string => .varchar
  | .integer => .integer
  | .float => .float
  | .double => .double
  | .real => .real
  | .date => .date
  | .boolean => .boolean
  | .json => .simpleJson
  | .enumeration => .simpleEnum
  | .file => .simpleJson

def ofColumnType : ColumnType → StorageType
  | .logical type => ofLogical type
  | .raw storage => .raw storage

end StorageType

/-- A compiled column. -/
structure ColumnDescriptor where
  storage : StorageType
  /-- The logical type, unless the declaration names a storage type. -/
  logical? : Option LogicalType
  primary : Bool := false
  generated? : Option Generation := none
  nullable : Bool := false
  default? : Option Json := none
  unique : Bool := false
  createDate : Bool := false
  updateDate : Bool := false
  deleteDate : Bool := false
  values? : Option (List String) := none
  length? : Option UInt32 := none
  comment? : Option String := none
deriving Inhabited, BEq

namespace ColumnDescriptor

def ofLogical (type : LogicalType) : ColumnDescriptor :=
  { storage := .ofLogical type, logical? := some type }

def primaryId : ColumnDescriptor :=
  { ofLogical .integer with primary := true, generated? := some (.flag true) }

/-- The column of a full declaration, every option carried over. -/
def ofColumn (column : Column) : ColumnDescriptor :=
  {
    storage := .ofColumnType column.type,
    logical? := column.type.logical?,
    primary := column.primary,
    generated? := column.generated?,
    nullable := column.nullable,
    default? := column.default?,
    unique := column.unique,
    createDate := column.createDate,
    updateDate := column.updateDate,
    deleteDate := column.deleteDate,
    values? := column.values?,
    length? := column.length?,
    comment? := column.comment?
  }

/-- Whether the database fills the column, by generation or as one of the dates it keeps. -/
def isGenerated (column : ColumnDescriptor) : Bool :=
  column.generated?.any Generation.isGenerated
    || column.createDate || column.updateDate || column.deleteDate

/-- Whether a request to create a record has to supply the column. -/
def isRequired (column : ColumnDescriptor) : Bool :=
  !column.isGenerated && !column.nullable && column.default?.isNone

def isFile (column : ColumnDescriptor) : Bool :=
  column.logical? = some .file

end ColumnDescriptor

/-- A compiled relation; its target is a name, registered or not. -/
structure RelationDescriptor where
  kind : RelationKind
  target : String
  cascade : Cascade := .every false
  eager : Bool := false
  joinColumn : Bool := false
  joinTable : Bool := false
  inverseSide? : Option String := none
  nullable? : Option Bool := none
  onDelete? : Option String := none
deriving DecidableEq, Repr, Inhabited

/-- The columns and relations of a model, each in order of declaration. -/
structure EntityDefinition where
  columns : OrderedMap ColumnDescriptor := .empty
  relations : OrderedMap RelationDescriptor := .empty
deriving Inhabited, BEq

namespace EntityDefinition

/-- The columns that a request to create a record has to supply, in order. -/
def requiredColumns (definition : EntityDefinition) : List String :=
  (definition.columns.entries.filter fun entry => entry.2.isRequired).map Prod.fst

/-- The primary columns, in order. -/
def primaryColumns (definition : EntityDefinition) : List String :=
  (definition.columns.entries.filter fun entry => entry.2.primary).map Prod.fst

end EntityDefinition

end EntityViews
