import EntityViews.EntityOptions
import EntityViews.Entity.Normalize
import EntityViews.Entity.Writer

/-! Models: named sets of declared fields with the options of their entity.
Two models may be declared alike and still be different models, so each has a serial number.
-/

namespace EntityViews

/-- A model as it is declared. -/
structure Model where
  serial : Nat
  name : String
  fields : Fields := .empty
  options : EntityOptions := {}
deriving Inhabited, BEq

/-- What the database layer needs to set up the table of one model. -/
structure Entity where
  name : String
  definition : EntityDefinition
  options : EntityOptions
deriving Inhabited, BEq

/-- An entity as JSON, its options beside its columns and relations. -/
def Entity.toJson (entity : Entity) : Json :=
  .object
    ([
        ("name", .string entity.name),
        ("columns", entity.definition.columnsToJson),
        ("relations", entity.definition.relationsToJson)
      ]
      ++ entity.options.toMembers)

namespace Model

def definition (model : Model) : Except SchemaError EntityDefinition :=
  normalize model.name model.fields

def entityOf (model : Model) (definition : EntityDefinition) : Entity :=
  ⟨model.name, definition, model.options⟩

def entity (model : Model) : Except SchemaError Entity :=
  model.entityOf <$> model.definition

end Model

end EntityViews
