import EntityViews.View.Expansion

/-! Form views: base views in which the file columns of the model itself are uploads.
File columns of embedded models keep their property.
-/

namespace EntityViews

/-- How views are generated. -/
structure ViewSettings where
  /-- The depth from which on models are refused; without one there is no limit. -/
  maxDepth? : Option Nat := none
  /-- The member that marks a file to upload. -/
  fileMark : String := "customSwaggerProps"
deriving DecidableEq, Repr, Inhabited

/-- The name of a property with its value replaced by an upload if it is a file column. -/
def EntityDefinition.uploadProperty (definition : EntityDefinition) (mark : String)
    (entry : String × Property)
    : String × Property :=
  match definition.columns.get? entry.1 with
  | some column => if column.isFile then (entry.1, .upload mark) else entry
  | none => entry

/-- The form of a base document: another identifier, and uploads for the file columns. -/
def EntityDefinition.toForm (definition : EntityDefinition) (mark id : String)
    (document : Document)
    : Document :=
  {
    document with
    id? := some id,
    properties := document.properties.map (definition.uploadProperty mark)
  }

/-- The document of a form view, with the definitions that `define` supplies. -/
def formViewWith (define : Model → Except SchemaError EntityDefinition) (registry : Registry)
    (settings : ViewSettings) (kind : FormKind) (model : Model) (qualifier : Option String)
    : Traced Document := do
  let document ← viewWith define registry settings.maxDepth? kind.base model qualifier
  .step (.defined model)
  let definition ← .ofExcept (define model)
  return definition.toForm settings.fileMark
    (schemaId model.name kind.label qualifier) document

/-- The document of any view, with the definitions that `define` supplies. -/
def View.generateWith (define : Model → Except SchemaError EntityDefinition)
    (registry : Registry) (settings : ViewSettings) (view : View) (model : Model)
    (qualifier : Option String)
    : Traced Document :=
  match view with
  | .base kind => viewWith define registry settings.maxDepth? kind model qualifier
  | .form kind => formViewWith define registry settings kind model qualifier

/-- The document of a view, or why there is none. -/
def View.generate (registry : Registry) (settings : ViewSettings) (view : View)
    (model : Model) (qualifier : Option String)
    : Except Halt Document :=
  (view.generateWith Model.definition registry settings model qualifier).outcome

end EntityViews
