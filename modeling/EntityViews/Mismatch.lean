import EntityViews.Source
import EntityViews.Text.Quoted
import EntityViews.Binary64.Layout

/-! What can be wrong with data that a text says.
A mismatch is a cause; its wording, which differs between formats only in how a number is
written, is given by one function.
-/

namespace EntityViews

/-- The kind of value that was found, with its content where messages show it. -/
inductive Found where
  | null
  | boolean (value : Bool)
  | integer (value : Int)
  | real (value : Binary64)
  | infinite (negative : Bool)
  | notANumber
  | string (value : String)
  | sequence
  | map
deriving DecidableEq, Repr

/-- Data that do not fit what was expected of them. -/
inductive Mismatch where
  /-- A value of another kind than `expected`. -/
  | invalidType (found : Found) (expected : String)
  /-- An integer out of the range of `expected`. -/
  | invalidValue (value : Int) (expected : String)
  | unknownField (name : String) (known : List String)
  | missingField (name : String)
  | duplicateField (name : String)
  | unknownVariant (name : String) (known : List String)
  /-- A value that fits none of the forms of `name`. -/
  | noVariant (name : String)
  /-- A choice written as a table with another number of members than one. -/
  | wantedOneMember (several : Bool)
  | wantedTextOrTable
  /-- A choice whose member holds data; `blocks` if they are written as blocks. -/
  | wantedEmpty (blocks : Bool)
  | wantedTable (found : String)
deriving DecidableEq, Repr

namespace Found

/-- How a message names what was found. -/
def text (format : Format) : Found → String
  | .null => "null"
  | .boolean value => s!"boolean `{value}`"
  | .integer value => s!"integer `{value}`"
  | .real value =>
      let layout :=
        match format with
        | .json => Binary64.jsonLayout
        | .toml => Binary64.plainLayout
      s!"floating point `{value.text layout}`"
  | .infinite false => "floating point `inf`"
  | .infinite true => "floating point `-inf`"
  | .notANumber => "floating point `NaN`"
  | .string value => "string " ++ Text.quote value
  | .sequence => "sequence"
  | .map => "map"

end Found

/-- Alternatives as a message lists them. -/
def alternatives : List String → String
  | [] => "there are no fields"
  | [only] => s!"expected `{only}`"
  | [first, second] => s!"expected `{first}` or `{second}`"
  | names => "expected one of " ++ ", ".intercalate (names.map fun name => s!"`{name}`")

def Mismatch.message (format : Format) : Mismatch → String
  | .invalidType found expected => s!"invalid type: {found.text format}, expected {expected}"
  | .invalidValue value expected => s!"invalid value: integer `{value}`, expected {expected}"
  | .unknownField name known => s!"unknown field `{name}`, {alternatives known}"
  | .missingField name => s!"missing field `{name}`"
  | .duplicateField name => s!"duplicate field `{name}`"
  | .unknownVariant name known => s!"unknown variant `{name}`, {alternatives known}"
  | .noVariant name => s!"data did not match any variant of untagged enum {name}"
  | .wantedOneMember false => "wanted exactly 1 element, found 0 elements"
  | .wantedOneMember true => "wanted exactly 1 element, more than 1 element"
  | .wantedTextOrTable => "wanted string or table"
  | .wantedEmpty false => "expected empty table"
  | .wantedEmpty true => "expected empty array"
  | .wantedTable found => s!"expected table, found {found}"

end EntityViews
