import EntityViews.Text.Lines

/-! Mistakes found while models are registered, compiled and expanded into views.
Each is a cause with a short wording, an explanation and, where it helps, a corrected
declaration to copy from.
-/

namespace EntityViews

/-- A mistake in the models. -/
inductive SchemaError where
  /-- A field stands beside the primary column, or wants to be one. -/
  | multiplePrimaryKeys (model field : String)
  /-- A relation is declared by its kind alone. -/
  | inlineRelation (model field : String)
  /-- The target of a relation is not a name. -/
  | unsupportedTarget (model field : String)
  | duplicateModel (name : String)
  | unknownModel (name : String)
  /-- The repository of a model was asked for before one was attached. -/
  | repositoryNotReady (name : String)
  /-- A model stands deeper in a view than the limit; the path leads to it. -/
  | depthExceeded (limit : Nat) (path : List String)
deriving DecidableEq, Repr

namespace SchemaError

/-- A stable code for programs. -/
def code : SchemaError → String
  | .multiplePrimaryKeys .. => "multiple_primary_keys"
  | .inlineRelation .. => "inline_relation_not_supported"
  | .unsupportedTarget .. => "unsupported_relation_target"
  | .duplicateModel .. => "duplicate_model_name"
  | .unknownModel .. => "unknown_model_reference"
  | .repositoryNotReady .. => "repo_not_ready"
  | .depthExceeded .. => "recursion_limit_exceeded"

/-- The names of a path, from the viewed model on. -/
def pathText (path : List String) : String :=
  " -> ".intercalate path

/-- What went wrong, in one line. -/
def cause : SchemaError → String
  | .multiplePrimaryKeys model field =>
      s!"model '{model}' declares '{field}' as a second primary column"
  | .inlineRelation model field =>
      s!"relation '{field}' on model '{model}' must use the full declaration"
  | .unsupportedTarget model field =>
      s!"relation '{field}' on model '{model}' has a target that is not a model name"
  | .duplicateModel name => s!"model name '{name}' has already been registered"
  | .unknownModel name => s!"model '{name}' is not registered"
  | .repositoryNotReady name =>
      s!"repository for model '{name}' requested before it was attached"
  | .depthExceeded limit path =>
      s!"schema expansion exceeded depth {limit} at '{pathText path}'"

def explanation : SchemaError → String
  | .multiplePrimaryKeys .. =>
      "A primary 'id' column is created for every model. "
        ++ "Composite primary keys are not supported, so no other column may be primary."
  | .inlineRelation .. =>
      "Relations need a target model and cascade metadata to build the entity, "
        ++ "which a bare relation kind cannot carry."
  | .unsupportedTarget .. =>
      "Relation targets are resolved by name through the model registry; "
        ++ "function or reference targets are not supported."
  | .duplicateModel name =>
      s!"Each model needs a unique name. A model named '{name}' already exists in this registry."
  | .unknownModel name =>
      "Models are looked up by the name they were registered with. "
        ++ s!"Make sure '{name}' is registered before any schema is requested."
  | .repositoryNotReady .. =>
      "The repository is attached after entities are created (post-init), "
        ++ "so it can only be used from that phase onwards."
  | .depthExceeded .. =>
      "Related models embed each other through cascade or eager relations. "
        ++ "Break the cycle or raise schema.max_depth."

/-- A corrected declaration, line by line. -/
def exampleLines : SchemaError → Option (List String)
  | .multiplePrimaryKeys _ field =>
      some [
        "[models.Example.fields]",
        field ++ " = \x7b type = \"string\", unique = true \x7d  # instead of primary = true"
      ]
  | .inlineRelation _ field =>
      some [
        "# Replace",
        field ++ " = \"one-to-one\"",
        "# with",
        field ++ " = \x7b type = \"one-to-one\", target = \"Detail\", joinColumn = true \x7d"
      ]
  | .unsupportedTarget _ field =>
      some [field ++ " = \x7b type = \"many-to-one\", target = \"Author\" \x7d"]
  | .repositoryNotReady name =>
      some [
        "let model = registry.get(\"" ++ name ++ "\")?;",
        "model.attach_repository(&persistence)?;",
        "let repo = model.repository()?;"
      ]
  | .duplicateModel _ => none
  | .unknownModel _ => none
  | .depthExceeded .. => none

def exampleText (error : SchemaError) : Option String :=
  error.exampleLines.map "\n".intercalate

/-- The mistake in full: cause, explanation and corrected declaration, each further line
indented.
-/
def description (error : SchemaError) : String :=
  let head := s!"{error.cause}\n  {error.explanation}"
  match error.exampleText with
  | none => head
  | some text =>
      (Text.lines text).foldl (fun shown line => shown ++ "\n    " ++ line)
        (head ++ "\n  Example:")

end SchemaError

end EntityViews
