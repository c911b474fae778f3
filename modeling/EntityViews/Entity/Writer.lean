import EntityViews.Entity
import EntityViews.Declaration.Writer

/-! Entity definitions written as JSON.
Unset options are left out, except for the cascade of a relation.
-/

namespace EntityViews

def ColumnDescriptor.toJson (column : ColumnDescriptor) : Json :=
  .object
    ([("type", .string column.storage.name)]
      ++ Json.given "logicalType" (column.logical?.map fun type => .string type.name)
      ++ Json.flag "primary" column.primary
      ++ Json.given "generated" (column.generated?.map Generation.toJson)
      ++ Json.flag "nullable" column.nullable
      ++ Json.given "default" column.default?
      ++ Json.flag "unique" column.unique
      ++ Json.flag "createDate" column.createDate
      ++ Json.flag "updateDate" column.updateDate
      ++ Json.flag "deleteDate" column.deleteDate
      ++ Json.given "enum" (column.values?.map Json.strings)
      ++ Json.given "length" (column.length?.map Json.word)
      ++ Json.given "comment" (column.comment?.map Json.string))

def RelationDescriptor.toJson (relation : RelationDescriptor) : Json :=
  .object
    ([
        ("type", .string relation.kind.name),
        ("target", .string relation.target),
        ("cascade", relation.cascade.toJson)
      ]
      ++ Json.flag "eager" relation.eager
      ++ Json.flag "joinColumn" relation.joinColumn
      ++ Json.flag "joinTable" relation.joinTable
      ++ Json.given "inverseSide" (relation.inverseSide?.map Json.string)
      ++ Json.given "nullable" (relation.nullable?.map Json.boolean)
      ++ Json.given "onDelete" (relation.onDelete?.map Json.string))

namespace EntityDefinition

def columnsToJson (definition : EntityDefinition) : Json :=
  .object (definition.columns.entries.map fun entry => (entry.1, entry.2.toJson))

def relationsToJson (definition : EntityDefinition) : Json :=
  .object (definition.relations.entries.map fun entry => (entry.1, entry.2.toJson))

def toJson (definition : EntityDefinition) : Json :=
  .object
    [("columns", definition.columnsToJson), ("relations", definition.relationsToJson)]

end EntityDefinition

end EntityViews
