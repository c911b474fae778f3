import EntityViews.Entity

/-! The kinds of views of a model and the identifiers of their documents.
-/

namespace EntityViews

/-- The base views: what a request to create or to update a record sends, and what reading one
returns.
-/
inductive ViewKind where
  | create
  | update
  | full
deriving DecidableEq, Repr, Inhabited

namespace ViewKind

def all : List ViewKind :=
  [.create, .update, .full]

def label : ViewKind → String
  | .create => "createSchema"
  | .update => "updateSchema"
  | .full => "fullSchema"

/-- Whether the view shows a column; only the full view shows generated ones. -/
def keeps (kind : ViewKind) (column : ColumnDescriptor) : Bool :=
  kind == .full || !column.isGenerated

def follows (kind : ViewKind) (relation : RelationDescriptor) : Bool :=
  match kind with
  | .create => relation.cascade.includes .insert
  | .update => relation.cascade.includes .update
  | .full => relation.eager

end ViewKind

/-- The form views, in which files are uploaded rather than referred to. -/
inductive FormKind where
  | create
  | update
deriving DecidableEq, Repr, Inhabited

namespace FormKind

def label : FormKind → String
  | .create => "formCreateSchema"
  | .update => "formUpdateSchema"

def base : FormKind → ViewKind
  | .create => .create
  | .update => .update

end FormKind

/-- The views of a model. -/
inductive View where
  | base (kind : ViewKind)
  | form (kind : FormKind)
deriving DecidableEq, Repr, Inhabited

namespace View

def all : List View :=
  [.base .create, .base .update, .base .full, .form .create, .form .update]

def name : View → String
  | .base .create => "create"
  | .base .update => "update"
  | .base .full => "full"
  | .form .create => "form-create"
  | .form .update => "form-update"

def parse? (word : String) : Option View :=
  all.find? fun view => view.name == word

def label : View → String
  | .base kind => kind.label
  | .form kind => kind.label

end View

/-- The name of a model behind a qualifier; an empty qualifier counts as none. -/
def qualifiedName (model : String) (qualifier : Option String) : String :=
  match qualifier with
  | some text => if text.isEmpty then model else text ++ "_" ++ model
  | none => model

def schemaId (model label : String) (qualifier : Option String) : String :=
  qualifiedName model qualifier ++ "_" ++ label

end EntityViews
