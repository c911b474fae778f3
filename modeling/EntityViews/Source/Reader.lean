import EntityViews.Declaration.Reader

/-! Readers of typed data.
A reader walks the data of a text in order of writing and stops at the first problem, be it data
that do not fit or the place from which on the text is malformed.
-/

namespace EntityViews

/-- Why a text gives no data of the expected type. -/
inductive Fault where
  | malformed
  | mismatch (problem : Mismatch)
  | declaration (problem : DeclarationError)
deriving DecidableEq, Repr

/-- The wording of a fault; a malformed text has none of its own. -/
def Fault.message? (format : Format) : Fault → Option String
  | .malformed => none
  | .mismatch problem => some (problem.message format)
  | .declaration problem => some problem.message

/-- Data of a type, or the first problem met. -/
abbrev Read (α : Type) := Except Fault α

namespace Source

/-- The kind of value that stands here, if the text is well formed up to it. -/
def found? : Source → Option Found
  | .broken => none
  | .null => some .null
  | .boolean value => some (.boolean value)
  | .integer value => some (.integer value)
  | .real value => some (.real value)
  | .infinite negative => some (.infinite negative)
  | .notANumber => some .notANumber
  | .string value => some (.string value)
  | .datetime _ => some .map
  | .array .. => some .sequence
  | .blocks _ => some .sequence
  | .object .. => some .map

def unlike (source : Source) (expected : String) : Read α :=
  match source.found? with
  | some found => .error (.mismatch (.invalidType found expected))
  | none => .error .malformed

def readText : Source → Read String
  | .string value => .ok value
  | source => source.unlike "a string"

def readFlag : Source → Read Bool
  | .boolean value => .ok value
  | source => source.unlike "a boolean"

/-- A size: an integer of 64 bits without a sign. -/
def readSize : Source → Read Nat
  | .integer value =>
      if 0 ≤ value ∧ value.toNat < Nat.pow 2 64 then .ok value.toNat
      else .error (.mismatch (.invalidValue value "usize"))
  | source => source.unlike "usize"

/-- A value that may be null, which stands for its absence. -/
def readOptional (read : Source → Read α) : Source → Read (Option α)
  | .null => .ok none
  | source => some <$> read source

def afterClosing (closed : Bool) (value : α) : Read α :=
  if closed then .ok value else .error .malformed

/-- The members of an object, a table or a date, and whether it is closed. -/
def members? : Source → Option (Members Source × Bool)
  | .object members closed => some (members, closed)
  | .datetime text => some ([(datetimeMember, .string text)], true)
  | _ => none

/-- A map. A repeated name keeps its first place and its last value. -/
def readMap (read : Source → Read α) (source : Source) : Read (OrderedMap α) :=
  match source.members? with
  | some (members, closed) => do
      let insert := fun (map : OrderedMap α) (member : String × Source) => do
        return map.insert member.1 (← read member.2)
      let map ← members.foldlM insert .empty
      afterClosing closed map
  | none => source.unlike "a map"

/-- A field of a record: its written name and how its value changes the record. -/
structure Field (σ : Type) where
  name : String
  read : σ → Source → Read σ

/-- A record type: its title, its fields in order, and whether other fields are refused. -/
structure Record (σ : Type) where
  title : String
  fields : List (Field σ)
  strict : Bool

/-- A record, and the names of the fields it has been given, after one more member. -/
def Record.readMember {σ : Type} (record : Record σ) (state : σ × List String)
    (member : String × Source)
    : Read (σ × List String) :=
  let (value, seen) := state
  let (name, source) := member
  match record.fields.find? fun field => field.name == name with
  | some field =>
      if seen.contains name then .error (.mismatch (.duplicateField name))
      else do
        let value ← field.read value source
        return (value, name :: seen)
  | none =>
      if record.strict then
        .error (.mismatch (.unknownField name (record.fields.map Field.name)))
      else .ok state

/-- The record whose fields are given by position; missing ones at the end keep their
defaults, and only a JSON text may not hold more values than there are fields.
-/
def readPositions {σ : Type} (format : Format) (closed : Bool)
    : List (Field σ) → List Source → σ → Read σ
  | _, [], value => afterClosing closed value
  | [], _ :: _, value => afterClosing (format == .toml) value
  | field :: fields, source :: rest, value => do
      let value ← field.read value source
      readPositions format closed fields rest value

/-- A record, written as an object or as the list of its fields. -/
def Record.read {σ : Type} (record : Record σ) (format : Format) (start : σ) (source : Source)
    : Read σ :=
  match source with
  | .array items closed => readPositions format closed record.fields items start
  | .blocks items => readPositions format true record.fields items start
  | source =>
      match source.members? with
      | some (members, closed) => do
          let (value, _) ← members.foldlM record.readMember (start, [])
          afterClosing closed value
      | none => source.unlike ("struct " ++ record.title)

/-- A declared field; the whole of it has to be well formed before it is looked at. -/
def readDeclaration (source : Source) : Read Declaration :=
  match source.toJson? with
  | none => .error .malformed
  | some value =>
      match Declaration.ofJson value with
      | .ok declaration => .ok declaration
      | .error problem => .error (.declaration problem)

def readFields (source : Source) : Read Fields :=
  source.readMap readDeclaration

end Source

/-- The data of a whole text. Text after them counts last. -/
def Reading.decode (reading : Reading) (read : Source → Read α) : Read α := do
  let value ← read reading.root
  Source.afterClosing reading.clean value

end EntityViews
