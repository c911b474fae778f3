import EntityViews.Source

/-! Tables of a TOML text while they are put together.
A table is defined once: by a header of its own, or piece by piece by dotted keys. A table that
only stands in the header of another one may still be defined, and then takes the last place.
-/

namespace EntityViews.TomlText

/-- How a table has come to be. -/
inductive Standing where
  /-- It stands in the header of a table below it. -/
  | implied
  /-- It stands in dotted keys. -/
  | dotted
  /-- It has a header of its own. -/
  | defined
deriving DecidableEq, Repr

/-- What a name of a table stands for. -/
inductive Node where
  | value (value : Source)
  | table (standing : Standing) (members : List (String × Node))
  /-- Tables under repeated headers; each of them is a table. -/
  | blocks (tables : List Node)
deriving Inhabited

namespace Node

mutual

def toSource : Node → Source
  | .value data => data
  | .table _ members => .object (membersToSource members) true
  | .blocks tables => .blocks (tablesToSource tables)

def membersToSource : List (String × Node) → List (String × Source)
  | [] => []
  | (name, node) :: rest => (name, node.toSource) :: membersToSource rest

/-- The data of tables under repeated headers. -/
def tablesToSource : List Node → List Source
  | [] => []
  | node :: rest => node.toSource :: tablesToSource rest

end

/-- Changes the table that a path leads to, from a table of the given standing on. Missing
tables on the way are made, and of blocks the last one is entered. Dotted keys do not enter a
table that has a header.
-/
def updateAt (isDotted : Bool) (change : Standing → Members Node → Option (Members Node))
    : List String → Standing → Members Node → Option (Members Node)
  | [], standing, members => change standing members
  | name :: path, _, members =>
      match members.lookup name with
      | none => do
          let standing := if isDotted then .dotted else .implied
          let inner ← updateAt isDotted change path standing []
          return members ++ [(name, .table standing inner)]
      | some (.value _) => none
      | some (.blocks tables) =>
          match tables.getLast? with
          | some (.table standing last) => do
              let inner ← updateAt isDotted change path standing last
              return members.put name (.blocks (tables.dropLast ++ [.table standing inner]))
          | _ => none
      | some (.table standing found) => do
          if isDotted ∧ standing = .defined then none
          let inner ← updateAt isDotted change path standing found
          return members.put name (.table standing inner)

/-- Adds a value under a dotted key to a table. The name has to be free, and the table before
the last dot has to be one that dotted keys have made.
-/
def addPair (path : List String) (name : String) (value : Source) (members : Members Node)
    : Option (Members Node) :=
  updateAt true
    (fun standing found =>
      if (!path.isEmpty ∧ standing ≠ .dotted) ∨ name ∈ found.names then none
      else some (found ++ [(name, .value value)]))
    path .defined members

def openTable (path : List String) (name : String) (root : Members Node)
    : Option (Members Node) :=
  updateAt false
    (fun _ found =>
      match found.lookup name with
      | none => some (found ++ [(name, .table .defined [])])
      | some (.table .implied inner) =>
          some (found.filter (fun entry => entry.1 != name) ++ [(name, .table .defined inner)])
      | some _ => none)
    path .defined root

/-- Adds a table to those under a repeated header. -/
def openBlock (path : List String) (name : String) (root : Members Node)
    : Option (Members Node) :=
  updateAt false
    (fun _ found =>
      match found.lookup name with
      | none => some (found ++ [(name, .blocks [.table .defined []])])
      | some (.blocks tables) =>
          some (found.put name (.blocks (tables ++ [.table .defined []])))
      | some _ => none)
    path .defined root

/-- Adds a value under a dotted key to the table that the last header has opened. -/
def addPairAt (header path : List String) (name : String) (value : Source)
    (root : Members Node)
    : Option (Members Node) :=
  updateAt false (fun _ members => addPair path name value members) header .defined root

end Node

end EntityViews.TomlText
