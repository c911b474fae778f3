import EntityViews.Entity
import EntityViews.SchemaError

/-! Compiling the declared fields of a model into its entity definition.
Fields are taken in order and the first that cannot be compiled is reported.
-/

namespace EntityViews

/-- The name of the primary column. -/
def primaryColumn : String := "id"

/-- The definition that holds nothing but the primary column. -/
def EntityDefinition.initial : EntityDefinition :=
  { columns := OrderedMap.empty.insert primaryColumn .primaryId }

/-- The compiled relation of a declared one, whose target has to be a name. -/
def RelationDescriptor.ofRelation (model field : String) (relation : Relation)
    : Except SchemaError RelationDescriptor :=
  match relation.target with
  | .reference _ => .error (.unsupportedTarget model field)
  | .name target =>
      .ok
        {
          kind := relation.kind,
          target,
          cascade := relation.cascade,
          eager := relation.eager,
          joinColumn := relation.joinColumn,
          joinTable := relation.joinTable,
          inverseSide? := relation.inverseSide?,
          nullable? := relation.nullable?,
          onDelete? := relation.onDelete?
        }

def EntityDefinition.addField (model : String) (definition : EntityDefinition)
    (field : String) (declaration : Declaration)
    : Except SchemaError EntityDefinition :=
  if field = primaryColumn then .error (.multiplePrimaryKeys model field)
  else
    match declaration with
    | .scalar type =>
        .ok { definition with columns := definition.columns.insert field (.ofLogical type) }
    | .column column =>
        if column.primary then .error (.multiplePrimaryKeys model field)
        else
          .ok { definition with columns := definition.columns.insert field (.ofColumn column) }
    | .relationTag _ => .error (.inlineRelation model field)
    | .relation relation => do
        let descriptor ← RelationDescriptor.ofRelation model field relation
        return { definition with relations := definition.relations.insert field descriptor }

/-- The entity definition of a model. The name of the model only shows in errors. -/
def normalize (model : String) (fields : Fields) : Except SchemaError EntityDefinition :=
  fields.entries.foldlM
    (fun definition entry => definition.addField model entry.1 entry.2)
    .initial

end EntityViews
