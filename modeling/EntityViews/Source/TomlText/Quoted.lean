import EntityViews.Text.Digits

/-! Quoted texts of a TOML text: basic ones with escapes and literal ones without, each on one
line or, behind three quotes, on several.
-/

namespace EntityViews.TomlText

def readBreak : List Char → Option (List Char)
  | '\n' :: rest => some rest
  | '\r' :: '\n' :: rest => some rest
  | _ => none

def skipBreak (chars : List Char) : List Char :=
  (readBreak chars).getD chars

/-- Whether a character may stand in a quoted text or a comment: all but control characters
other than the tabulator.
-/
def isPlain (c : Char) : Bool :=
  c = '\t' || (0x20 ≤ c.toNat && c.toNat ≠ 0x7F)

def isSpace (c : Char) : Bool :=
  c = ' ' || c = '\t'

/-- The character whose number so many hexadecimal digits write. -/
def readCodePoint (places : Nat) (chars : List Char) : Option (Char × List Char) := do
  let (value, rest) ← Text.readHex places 0 chars
  if value.isValidChar then some (Char.ofNat value, rest) else none

/-- The character after a backslash. -/
def readEscaped : List Char → Option (Char × List Char)
  | 'b' :: rest => some ('\x08', rest)
  | 'f' :: rest => some ('\x0c', rest)
  | 'n' :: rest => some ('\n', rest)
  | 'r' :: rest => some ('\r', rest)
  | 't' :: rest => some ('\t', rest)
  | '"' :: rest => some ('"', rest)
  | '\\' :: rest => some ('\\', rest)
  | 'u' :: rest => readCodePoint 4 rest
  | 'U' :: rest => readCodePoint 8 rest
  | _ => none

def readBasic : Nat → List Char → Option (List Char × List Char)
  | 0, _ => none
  | _ + 1, [] => none
  | fuel + 1, c :: rest =>
      if c = '"' then some ([], rest)
      else if c = '\\' then do
        let (meant, rest) ← readEscaped rest
        let (more, rest) ← readBasic fuel rest
        return (meant :: more, rest)
      else if isPlain c then do
        let (more, rest) ← readBasic fuel rest
        return (c :: more, rest)
      else none

def readLiteral : List Char → Option (List Char × List Char)
  | [] => none
  | c :: rest =>
      if c = '\'' then some ([], rest)
      else if isPlain c then do
        let (more, rest) ← readLiteral rest
        return (c :: more, rest)
      else none

/-- The end of a text on several lines: three quotes close it, and up to two more before them
belong to the text. Without three quotes the text goes on.
-/
def closing? (mark : Char) (chars : List Char) : Option (List Char × List Char) :=
  let run := (chars.takeWhile (· = mark)).length
  if run < 3 then none
  else
    let kept := min (run - 3) 2
    some (List.replicate kept mark, chars.drop (kept + 3))

/-- The text from the first character on that is neither a blank nor part of a line break. -/
def skipSpaces : List Char → List Char
  | '\n' :: rest => skipSpaces rest
  | '\r' :: '\n' :: rest => skipSpaces rest
  | c :: rest => if isSpace c then skipSpaces rest else c :: rest
  | [] => []

/-- The text after a backslash that ends a line, where the next line with text goes on. -/
def skipLineEnd (chars : List Char) : Option (List Char) :=
  (readBreak (chars.dropWhile isSpace)).map skipSpaces

/-- A basic text on several lines, from some place inside it on. -/
def readBasicLines : Nat → List Char → Option (List Char × List Char)
  | 0, _ => none
  | fuel + 1, chars =>
      match closing? '"' chars with
      | some closed => some closed
      | none =>
          match readBreak chars with
          | some rest => do
              let (more, rest) ← readBasicLines fuel rest
              return ('\n' :: more, rest)
          | none =>
              match chars with
              | '\\' :: rest =>
                  match skipLineEnd rest with
                  | some rest => readBasicLines fuel rest
                  | none => do
                      let (meant, rest) ← readEscaped rest
                      let (more, rest) ← readBasicLines fuel rest
                      return (meant :: more, rest)
              | c :: rest => do
                  if isPlain c then
                    let (more, rest) ← readBasicLines fuel rest
                    return (c :: more, rest)
                  else none
              | [] => none

/-- A literal text on several lines, from some place inside it on. -/
def readLiteralLines : Nat → List Char → Option (List Char × List Char)
  | 0, _ => none
  | fuel + 1, chars =>
      match closing? '\'' chars with
      | some closed => some closed
      | none =>
          match readBreak chars with
          | some rest => do
              let (more, rest) ← readLiteralLines fuel rest
              return ('\n' :: more, rest)
          | none =>
              match chars with
              | c :: rest => do
                  if isPlain c then
                    let (more, rest) ← readLiteralLines fuel rest
                    return (c :: more, rest)
                  else none
              | [] => none

/-- A quoted text on one line, with its quotes. -/
def readLine : List Char → Option (List Char × List Char)
  | '"' :: rest => readBasic (rest.length + 1) rest
  | '\'' :: rest => readLiteral rest
  | _ => none

/-- A quoted text of any form; a line break right after three quotes is not part of it. -/
def readQuoted : List Char → Option (List Char × List Char)
  | '"' :: '"' :: '"' :: rest => readBasicLines (rest.length + 1) (skipBreak rest)
  | '\'' :: '\'' :: '\'' :: rest => readLiteralLines (rest.length + 1) (skipBreak rest)
  | chars => readLine chars

end EntityViews.TomlText
