import EntityViews.Entity
import EntityViews.Json

/-! Documents: the JSON schema of a view.
An object is described property by property; a property may embed another object. A document has
two renderings, written member by member or put together as a value.
-/

namespace EntityViews

/-- The types of a JSON schema. -/
inductive JsonType where
  | string
  | number
  | integer
  | boolean
  | object
  | array
deriving DecidableEq, Repr, Inhabited

namespace JsonType

def name : JsonType → String
  | .string => "string"
  | .number => "number"
  | .integer => "integer"
  | .boolean => "boolean"
  | .object => "object"
  | .array => "array"

def integerStorage : List String :=
  [
    "int", "int2", "int4", "int8", "int64", "integer", "tinyint", "smallint", "mediumint",
    "bigint", "unsigned big int"
  ]

def numberStorage : List String :=
  [
    "float", "float4", "float8", "double", "double precision", "real", "dec", "decimal",
    "smalldecimal", "fixed", "numeric", "number", "money", "smallmoney"
  ]

/-- The type of the values in a column of a storage type; unknown ones hold strings. -/
def ofStorage (storage : StorageType) : JsonType :=
  let name := storage.name
  if integerStorage.contains name then .integer
  else if numberStorage.contains name then .number
  else if ["boolean", "bool"].contains name then .boolean
  else if ["simple-json", "json", "jsonb"].contains name then .object
  else if ["simple-array", "array"].contains name then .array
  else .string

end JsonType

/-- The schema of an object: its identifier, its type, its properties in order, and the names of
those that must be present, if that is said. The views give it the type of an object.
-/
structure ObjectOf (Property : Type) where
  id? : Option String
  type : JsonType := .object
  properties : List (String × Property)
  required? : Option (List String)
deriving Inhabited

/-- The schema of a property. -/
inductive Property where
  | scalar (type : JsonType)
  /-- An object of any shape. -/
  | freeForm
  | embedded (object : ObjectOf Property)
  | array (items : Property)
  /-- A file to upload, marked by a member of the given name. -/
  | upload (mark : String)
deriving Inhabited

/-- The JSON schema of a view. -/
abbrev Document := ObjectOf Property

def JsonType.member (type : JsonType) : String × Json :=
  ("type", .string type.name)

def Property.uploadMember (mark : String) : String × Json :=
  (mark, .object [("type", .string "file")])

mutual

/-- A property written member by member. A mark called `type` repeats that name. -/
def Property.toJson : Property → Json
  | .scalar type => .object [type.member]
  | .freeForm => .object [JsonType.object.member, ("additionalProperties", .boolean true)]
  | .embedded object => ObjectOf.toJson object
  | .array items => .object [JsonType.array.member, ("items", items.toJson)]
  | .upload mark => .object [JsonType.object.member, Property.uploadMember mark]

/-- An object schema written member by member. -/
def ObjectOf.toJson : ObjectOf Property → Json
  | ⟨id?, type, properties, required?⟩ =>
      .object
        (Json.given "$id" (id?.map Json.string)
          ++ [type.member, ("properties", .object (propertiesToJson properties))]
          ++ Json.given "required" (required?.map Json.strings))

/-- Properties written member by member. -/
def propertiesToJson : List (String × Property) → List (String × Json)
  | [] => []
  | (name, property) :: rest => (name, property.toJson) :: propertiesToJson rest

end

mutual

/-- A property put together as a value: a repeated name keeps its place and its last value. -/
def Property.toValue : Property → Json
  | .scalar type => .object [type.member]
  | .freeForm => .object [JsonType.object.member, ("additionalProperties", .boolean true)]
  | .embedded object => ObjectOf.toValue object
  | .array items => .object [JsonType.array.member, ("items", items.toValue)]
  | .upload mark =>
      .object (Members.collapse [JsonType.object.member, Property.uploadMember mark])

/-- An object schema put together as a value. -/
def ObjectOf.toValue : ObjectOf Property → Json
  | ⟨id?, type, properties, required?⟩ =>
      .object
        (Json.given "$id" (id?.map Json.string)
          ++ [
            type.member,
            ("properties", .object (Members.collapse (propertiesToValue properties)))
          ]
          ++ Json.given "required" (required?.map Json.strings))

def propertiesToValue : List (String × Property) → List (String × Json)
  | [] => []
  | (name, property) :: rest => (name, property.toValue) :: propertiesToValue rest

end

namespace ObjectOf

def new (id : String) : Document :=
  { id? := some id, properties := [], required? := none }

/-- The document without its identifier, to be embedded in another one. -/
def withoutId (document : Document) : Document :=
  { document with id? := none }

def property? (document : Document) (name : String) : Option Property :=
  document.properties.lookup name

def withProperty (document : Document) (name : String) (property : Property) : Document :=
  { document with properties := Members.put document.properties name property }

end ObjectOf

def Property.embedded? : Property → Option Document
  | .embedded object => some object
  | _ => none

def errorResponse : Document :=
  {
    id? := some "ErrorResponse",
    properties := [
      ("statusCode", .scalar .number),
      ("error", .scalar .string),
      ("message", .scalar .string)
    ],
    required? := none
  }

end EntityViews
