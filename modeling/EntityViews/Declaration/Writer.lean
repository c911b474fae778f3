import EntityViews.Declaration

/-! Declarations written as JSON.
What a declaration leaves at its default is left out; a word is written in its canonical form.
-/

namespace EntityViews

def Generation.toJson : Generation → Json
  | .flag value => .boolean value
  | .strategy value => .string value.name

def Cascade.toJson : Cascade → Json
  | .every value => .boolean value
  | .only operations => .strings (operations.map Operation.name)

def Target.toJson : Target → Json
  | .name model => .string model
  | .reference value => value

def Column.toJson (column : Column) : Json :=
  .object
    ([("type", .string column.type.word)]
      ++ Json.flag "nullable" column.nullable
      ++ Json.given "default" column.default?
      ++ Json.given "generated" (column.generated?.map Generation.toJson)
      ++ Json.flag "primary" column.primary
      ++ Json.flag "unique" column.unique
      ++ Json.flag "createDate" column.createDate
      ++ Json.flag "updateDate" column.updateDate
      ++ Json.flag "deleteDate" column.deleteDate
      ++ Json.given "enum" (column.values?.map Json.strings)
      ++ Json.given "length" (column.length?.map Json.word)
      ++ Json.given "comment" (column.comment?.map Json.string))

/-- A relation as JSON; a cascade of nothing at all is left out, an empty list is not. -/
def Relation.toJson (relation : Relation) : Json :=
  .object
    ([("type", .string relation.kind.name), ("target", relation.target.toJson)]
      ++ (if relation.cascade = .every false then []
        else [("cascade", relation.cascade.toJson)])
      ++ Json.flag "eager" relation.eager
      ++ Json.flag "joinColumn" relation.joinColumn
      ++ Json.flag "joinTable" relation.joinTable
      ++ Json.given "inverseSide" (relation.inverseSide?.map Json.string)
      ++ Json.given "nullable" (relation.nullable?.map Json.boolean)
      ++ Json.given "onDelete" (relation.onDelete?.map Json.string))

def Declaration.toJson : Declaration → Json
  | .scalar type => .string type.name
  | .column declared => declared.toJson
  | .relationTag kind => .string kind.name
  | .relation declared => declared.toJson

def Fields.toJson (fields : Fields) : Json :=
  .object (fields.entries.map fun entry => (entry.1, entry.2.toJson))

end EntityViews
