import EntityViews.Manifest
import EntityViews.Files
import EntityViews.Text.Blank

/-! Manifests from files.
The ending of the path tells the format.
-/

namespace EntityViews

/-- Why a file gives no manifest. -/
inductive ManifestFileError where
  | unreadable (path : String) (problem : FileError)
  | invalid (path : String) (problem : ManifestError)
deriving DecidableEq, Repr

/-- The wording of an error, outermost context first. -/
def ManifestFileError.message : ManifestFileError → String
  | .unreadable path problem => s!"Failed to read manifest: {path}: {problem.message}"
  | .invalid path problem => s!"Invalid manifest: {path}: {problem.message}"

/-- The format of the file at a path: JSON if it ends in `.json` in any case, and TOML
otherwise.
-/
def Format.ofPath (path : String) : Format :=
  if (pathExtension? path).any fun ending => Text.lower ending == "json" then .json else .toml

def Manifest.ofFile (files : Files) (path : String) : Except ManifestFileError Manifest :=
  match (files path).read with
  | .error problem => .error (.unreadable path problem)
  | .ok text =>
      match Manifest.ofText (.ofPath path) text with
      | .ok manifest => .ok manifest
      | .error problem => .error (.invalid path problem)

end EntityViews
