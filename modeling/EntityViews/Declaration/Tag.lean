/-! The words a declaration may name its type with.
Logical types have a canonical name, short aliases and upper-case spellings; relation kinds may
be spelled in any case and with underscores. No word is both.
-/

namespace EntityViews

/-- The column types that do not depend on a database. -/
inductive LogicalType where
  | string
  | integer
  | float
  | double
  | real
  | date
  | json
  | boolean
  | enumeration
  /-- A file, of which only a reference is stored. -/
  | file
deriving DecidableEq, Repr, Inhabited

namespace LogicalType

def all : List LogicalType :=
  [.string, .integer, .float, .double, .real, .date, .json, .boolean, .enumeration, .file]

def name : LogicalType → String
  | .string => "string"
  | .integer => "integer"
  | .float => "float"
  | .double => "double"
  | .real => "real"
  | .date => "date"
  | .json => "json"
  | .boolean => "boolean"
  | .enumeration => "enum"
  | .file => "file"

def spellings : LogicalType → List String
  | .string => ["string", "varchar", "VARCHAR", "STRING"]
  | .integer => ["integer", "int", "INT", "INTEGER"]
  | .float => ["float", "FLOAT"]
  | .double => ["double", "DOUBLE"]
  | .real => ["real", "REAL"]
  | .date => ["date", "DATE"]
  | .json => ["json", "JSON"]
  | .boolean => ["boolean", "bool", "BOOL", "BOOLEAN"]
  | .enumeration => ["enum", "ENUM"]
  | .file => ["file", "FILE"]

def parse? (word : String) : Option LogicalType :=
  all.find? fun type => type.spellings.contains word

end LogicalType

/-- How many records stand on either side of a relation. -/
inductive RelationKind where
  | oneToOne
  | oneToMany
  | manyToOne
  | manyToMany
deriving DecidableEq, Repr, Inhabited

namespace RelationKind

def all : List RelationKind :=
  [.oneToOne, .oneToMany, .manyToOne, .manyToMany]

def name : RelationKind → String
  | .oneToOne => "one-to-one"
  | .oneToMany => "one-to-many"
  | .manyToOne => "many-to-one"
  | .manyToMany => "many-to-many"

/-- A word in lower case with hyphens for underscores; letters beyond ASCII keep their case. -/
def canonical (word : String) : String :=
  String.ofList (word.toList.map fun c => if c = '_' then '-' else c.toLower)

def parse? (word : String) : Option RelationKind :=
  all.find? fun kind => kind.name == canonical word

/-- Whether a record is related to a collection of records. -/
def isToMany : RelationKind → Bool
  | .oneToMany => true
  | .manyToMany => true
  | .oneToOne => false
  | .manyToOne => false

end RelationKind

/-- A word that is none of those expected. -/
inductive UnknownWord where
  | logicalType (word : String)
  | relationKind (word : String)
deriving DecidableEq, Repr

def UnknownWord.message : UnknownWord → String
  | .logicalType word => s!"unknown logical type '{word}'"
  | .relationKind word => s!"unknown relation kind '{word}'"

/-- The logical type a word spells, or the complaint that it spells none. -/
def LogicalType.ofWord (word : String) : Except UnknownWord LogicalType :=
  match LogicalType.parse? word with
  | some type => .ok type
  | none => .error (.logicalType word)

/-- The relation kind a word spells, or the complaint that it spells none. -/
def RelationKind.ofWord (word : String) : Except UnknownWord RelationKind :=
  match RelationKind.parse? word with
  | some kind => .ok kind
  | none => .error (.relationKind word)

/-- The type of a column: a logical type, or the name of a storage type taken as it is. -/
inductive ColumnType where
  | logical (type : LogicalType)
  | raw (storage : String)
deriving DecidableEq, Repr, Inhabited

namespace ColumnType

/-- The type a word names: the logical type it spells, or else a storage type. -/
def ofWord (word : String) : ColumnType :=
  match LogicalType.parse? word with
  | some type => .logical type
  | none => .raw word

def word : ColumnType → String
  | .logical type => type.name
  | .raw storage => storage

/-- The logical type, if the column has one. -/
def logical? : ColumnType → Option LogicalType
  | .logical type => some type
  | .raw _ => none

end ColumnType

end EntityViews
