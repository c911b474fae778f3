import EntityViews.Registry
import EntityViews.Source.Text
import EntityViews.Declaration.Writer

/-! Manifests: texts that declare several models.
-/

namespace EntityViews

/-- A model of a manifest, under its name there. -/
structure ManifestEntry where
  fields : Fields := .empty
  options : EntityOptions := {}
deriving Inhabited, BEq

/-- The models of a manifest, in order. -/
structure Manifest where
  models : OrderedMap ManifestEntry := .empty
deriving Inhabited, BEq

/-- Why a text is not a manifest of its format. -/
structure ManifestError where
  format : Format
  fault : Fault
deriving DecidableEq, Repr

/-- The phrase of a manifest error, before the fault. -/
def ManifestError.context : Format → String
  | .json => "Failed to parse JSON manifest"
  | .toml => "Failed to parse TOML manifest"

/-- A context and what it is the context of, if that has a wording. -/
def within (context : String) (inner : Option String) : String :=
  match inner with
  | some text => context ++ ": " ++ text
  | none => context

def ManifestError.message (error : ManifestError) : String :=
  within (context error.format) (error.fault.message? error.format)

namespace ManifestEntry

def toJson (entry : ManifestEntry) : Json :=
  .object [("fields", entry.fields.toJson), ("options", entry.options.toJson)]

def record (format : Format) : Source.Record ManifestEntry :=
  {
    title := "ModelEntry",
    strict := true,
    fields := [
      ⟨"fields", fun entry source => return { entry with fields := ← source.readFields }⟩,
      ⟨"options", fun entry source =>
        return { entry with options := ← EntityOptions.read format source }⟩
    ]
  }

def read (format : Format) (source : Source) : Read ManifestEntry :=
  (record format).read format {} source

end ManifestEntry

namespace Manifest

def toJson (manifest : Manifest) : Json :=
  .object
    [("models",
      .object (manifest.models.entries.map fun entry => (entry.1, entry.2.toJson)))]

def record (format : Format) : Source.Record Manifest :=
  {
    title := "ModelManifest",
    strict := true,
    fields := [
      ⟨"models", fun manifest source =>
        return { manifest with models := ← source.readMap (ManifestEntry.read format) }⟩
    ]
  }

def read (format : Format) (source : Source) : Read Manifest :=
  (record format).read format {} source

def ofText (format : Format) (text : String) : Except ManifestError Manifest :=
  match (Reading.ofText format text).decode (read format) with
  | .ok manifest => .ok manifest
  | .error fault => .error ⟨format, fault⟩

/-- The models of a manifest, with serial numbers from the given one on. -/
def modelsFrom (manifest : Manifest) (serial : Nat) : List Model :=
  manifest.models.entries.zipIdx.map fun (entry, index) =>
    ⟨serial + index, entry.1, entry.2.fields, entry.2.options⟩

/-- Registers the models of a manifest in order, stopping at the first name that is taken. -/
def registerInto (manifest : Manifest) (serial : Nat) (registry : Registry)
    : Registry × Except SchemaError Unit :=
  registry.registerAll (manifest.modelsFrom serial)

end Manifest

end EntityViews
