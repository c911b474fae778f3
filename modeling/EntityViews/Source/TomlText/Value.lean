import EntityViews.Source.TomlText.DateTime
import EntityViews.Source.TomlText.Number
import EntityViews.Source.TomlText.Quoted
import EntityViews.Source.TomlText.Table

/-! Keys and values of a TOML text.
Arrays may run over several lines, inline tables may not.
-/

namespace EntityViews.TomlText

def skipSpace (chars : List Char) : List Char :=
  chars.dropWhile isSpace

/-- Whether a character may stand in a key without quotes. -/
def isKeyChar (c : Char) : Bool :=
  c.isAlphanum || c = '_' || c = '-'

def readKeyPart (chars : List Char) : Option (String × List Char) :=
  match readLine chars with
  | some (text, rest) => some (String.ofList text, rest)
  | none =>
      let bare := chars.takeWhile isKeyChar
      if bare.isEmpty then none else some (String.ofList bare, chars.drop bare.length)

/-- A key: parts with dots between them, all with blanks around them. -/
def readKeyParts : Nat → List Char → Option (List String × List Char)
  | 0, _ => none
  | fuel + 1, chars => do
      let (part, rest) ← readKeyPart (skipSpace chars)
      match skipSpace rest with
      | '.' :: rest =>
          let (parts, rest) ← readKeyParts fuel rest
          return (part :: parts, rest)
      | rest => return ([part], rest)

/-- Parts of a key and levels of nesting have to stay below this number. -/
def nestingLimit : Nat := 80

/-- A key as the path before its last dot and the name after it, and the rest. -/
def readKey (chars : List Char) : Option (List String × String × List Char) := do
  let (parts, rest) ← readKeyParts (chars.length + 1) chars
  let name ← parts.getLast?
  if parts.length < nestingLimit then return (parts.dropLast, name, rest) else none

/-- The text after blanks, comments and line breaks; a comment has to end with its line. -/
def skipGap : Bool → List Char → Option (List Char)
  | _, '\n' :: rest => skipGap false rest
  | _, '\r' :: '\n' :: rest => skipGap false rest
  | true, c :: rest => if isPlain c then skipGap true rest else none
  | true, [] => none
  | false, '#' :: rest => skipGap true rest
  | false, c :: rest => if isSpace c then skipGap false rest else some (c :: rest)
  | false, [] => some []

def readScalar (chars : List Char) : Option (Source × List Char) :=
  match chars with
  | 't' :: 'r' :: 'u' :: 'e' :: rest => some (.boolean true, rest)
  | 'f' :: 'a' :: 'l' :: 's' :: 'e' :: rest => some (.boolean false, rest)
  | chars =>
      match readQuoted chars with
      | some (text, rest) => some (.string (String.ofList text), rest)
      | none =>
          match readDateTime chars with
          | some (text, rest) => some (.datetime text, rest)
          | none => readNumber chars

mutual

/-- A value and the rest; `depth` more levels of nesting are allowed. -/
def readValue : Nat → Nat → List Char → Option (Source × List Char)
  | 0, _, _ => none
  | fuel + 1, depth, chars =>
      match chars, depth with
      | '[' :: rest, depth + 1 => do
          let (items, rest) ← readItems fuel depth rest
          return (.array items true, rest)
      | '\x7b' :: rest, depth + 1 =>
          match skipSpace rest with
          | '\x7d' :: rest => some (.object [] true, rest)
          | rest => do
              let (members, rest) ← readPairs fuel depth [] rest
              return (.object (Node.membersToSource members) true, rest)
      | chars, _ => readScalar chars

/-- The items of an array up to its end; a comma may follow the last one. -/
def readItems : Nat → Nat → List Char → Option (List Source × List Char)
  | 0, _, _ => none
  | fuel + 1, depth, chars => do
      match ← skipGap false chars with
      | ']' :: rest => return ([], rest)
      | chars =>
          let (item, rest) ← readValue fuel depth chars
          match ← skipGap false rest with
          | ',' :: rest =>
              let (items, rest) ← readItems fuel depth rest
              return (item :: items, rest)
          | ']' :: rest => return ([item], rest)
          | _ => none

/-- The members of an inline table up to its end, added to those before them. -/
def readPairs : Nat → Nat → Members Node → List Char → Option (Members Node × List Char)
  | 0, _, _, _ => none
  | fuel + 1, depth, members, chars => do
      let (path, name, rest) ← readKey chars
      let (value, rest) ← readValue fuel depth (skipSpace (← readMark '=' rest))
      let members ← Node.addPair path name value members
      match skipSpace rest with
      | ',' :: rest => readPairs fuel depth members rest
      | '\x7d' :: rest => return (members, rest)
      | _ => none

end

end EntityViews.TomlText
