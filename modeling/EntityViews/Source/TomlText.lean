import EntityViews.Source.TomlText.Value

/-! Reading the data of a TOML text.
A text that is malformed anywhere gives no data at all.
-/

namespace EntityViews.TomlText

/-- The text after the rest of a line, which may hold a comment and ends with the text at the
latest.
-/
def skipLine (chars : List Char) : Option (List Char) :=
  let rest :=
    match skipSpace chars with
    | '#' :: rest => rest.dropWhile isPlain
    | rest => rest
  if rest.isEmpty then some [] else readBreak rest

/-- What the lines so far have said: the data, and the path of the last header. -/
structure Scope where
  root : Members Node
  header : List String

/-- One line of a text, or several if a value runs over them. -/
def readStatement (scope : Scope) (chars : List Char) : Option (Scope × List Char) :=
  match chars with
  | '[' :: '[' :: rest => do
      let (path, name, rest) ← readKey rest
      let rest ← readMark ']' (← readMark ']' rest)
      let root ← Node.openBlock path name scope.root
      return (⟨root, path ++ [name]⟩, ← skipLine rest)
  | '[' :: rest => do
      let (path, name, rest) ← readKey rest
      let rest ← readMark ']' rest
      let root ← Node.openTable path name scope.root
      return (⟨root, path ++ [name]⟩, ← skipLine rest)
  | chars => do
      let (path, name, rest) ← readKey chars
      let rest := skipSpace (← readMark '=' rest)
      let (value, rest) ← readValue (2 * rest.length + 2) (nestingLimit - 1) rest
      let root ← Node.addPairAt scope.header path name value scope.root
      return (⟨root, scope.header⟩, ← skipLine rest)

def readStatements : Nat → Scope → List Char → Option (Members Node)
  | 0, _, _ => none
  | fuel + 1, scope, chars =>
      match skipSpace chars with
      | [] => some scope.root
      | c :: rest =>
          if c = '#' ∨ (readBreak (c :: rest)).isSome then do
            readStatements fuel scope (← skipLine (c :: rest))
          else do
            let (scope, rest) ← readStatement scope (c :: rest)
            readStatements fuel scope rest

/-- The text without a byte order mark at its front. -/
def skipMark : List Char → List Char
  | '\ufeff' :: rest => rest
  | chars => chars

def read (text : String) : Reading :=
  let chars := skipMark text.toList
  match readStatements (chars.length + 1) ⟨[], []⟩ chars with
  | some members => ⟨.object (Node.membersToSource members) true, true⟩
  | none => ⟨.broken, false⟩

end EntityViews.TomlText
