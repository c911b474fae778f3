import EntityViews.Json

/-! What a configuration or manifest text says, before anything is expected of it.
A text that stops being well formed keeps everything before that point, so that a reader walking
it in order meets the first problem first, whether it lies in the data or in the text.
-/

namespace EntityViews

/-- The two formats a text may be written in. -/
inductive Format where
  | json
  | toml
deriving DecidableEq, Repr

/-- The data of a text in order of writing, repeated member names included. -/
inductive Source where
  /-- The text is malformed where this value should stand. -/
  | broken
  | null
  | boolean (value : Bool)
  | integer (value : Int)
  | real (value : Binary64)
  | infinite (negative : Bool)
  | notANumber
  | string (value : String)
  | datetime (text : String)
  /-- An array; it is open if the text is malformed after these items. -/
  | array (items : List Source) (closed : Bool)
  /-- Tables written one after another under the same heading. -/
  | blocks (items : List Source)
  /-- An object or table; it is open if the text is malformed after these members. -/
  | object (members : List (String × Source)) (closed : Bool)
deriving Inhabited

/-- The name under which the text of a date stands when it is taken for a table. -/
def datetimeMember : String := "$__toml_private_datetime"

namespace Source

mutual

/-- The value as JSON, repeated members collapsed, or nothing if the text is malformed in it.
Numbers without a finite value are null.
-/
def toJson? : Source → Option Json
  | .broken => none
  | .null => some .null
  | .boolean value => some (.boolean value)
  | .integer value => some (.number (.integer value))
  | .real value => some (.number (.real value))
  | .infinite _ => some .null
  | .notANumber => some .null
  | .string value => some (.string value)
  | .datetime text => some (.object [(datetimeMember, .string text)])
  | .array items closed =>
      if closed then (itemsToJson? items).map Json.array else none
  | .blocks items => (itemsToJson? items).map Json.array
  | .object members closed =>
      if closed then (membersToJson? members).map fun found => .object (Members.collapse found)
      else none

def itemsToJson? : List Source → Option (List Json)
  | [] => some []
  | item :: rest => do
      let value ← item.toJson?
      return value :: (← itemsToJson? rest)

/-- The members of an object as JSON, as they are written. -/
def membersToJson? : List (String × Source) → Option (List (String × Json))
  | [] => some []
  | (name, item) :: rest => do
      let value ← item.toJson?
      return (name, value) :: (← membersToJson? rest)

end

mutual

def ofJson : Json → Source
  | .null => .null
  | .boolean value => .boolean value
  | .number (.integer value) => .integer value
  | .number (.real value) => .real value
  | .string value => .string value
  | .array items => .array (itemsOfJson items) true
  | .object members => .object (membersOfJson members) true

def itemsOfJson : List Json → List Source
  | [] => []
  | item :: rest => ofJson item :: itemsOfJson rest

def membersOfJson : List (String × Json) → List (String × Source)
  | [] => []
  | (name, item) :: rest => (name, ofJson item) :: membersOfJson rest

end

/-- Whether the text is malformed at the end of this value, so that nothing follows it. -/
def isOpen : Source → Bool
  | .broken => true
  | .array _ closed => !closed
  | .object _ closed => !closed
  | _ => false

end Source

/-- A whole text: its data, and whether nothing but blanks follows them. -/
structure Reading where
  root : Source
  clean : Bool
deriving Inhabited

end EntityViews
