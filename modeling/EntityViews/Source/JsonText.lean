import EntityViews.Source
import EntityViews.Text.Digits

/-! Reading the data of a JSON text.
The reader never fails: it marks the place from which on the text is malformed and stops there.
-/

namespace EntityViews.JsonText

/-- Blanks between tokens. -/
def isBlank (c : Char) : Bool :=
  c = ' ' || c = '\t' || c = '\n' || c = '\r'

def skipBlanks (chars : List Char) : List Char :=
  chars.dropWhile isBlank

/-- The character a numeric escape stands for; a high surrogate needs the low one after it. -/
def readUnicode (chars : List Char) : Option (Char × List Char) := do
  let (unit, rest) ← Text.readHex 4 0 chars
  if 0xDC00 ≤ unit ∧ unit ≤ 0xDFFF then none
  else if 0xD800 ≤ unit ∧ unit ≤ 0xDBFF then
    match rest with
    | '\\' :: 'u' :: rest =>
        let (low, rest) ← Text.readHex 4 0 rest
        if 0xDC00 ≤ low ∧ low ≤ 0xDFFF then
          some (Char.ofNat (0x10000 + (unit - 0xD800) * 0x400 + (low - 0xDC00)), rest)
        else none
    | _ => none
  else some (Char.ofNat unit, rest)

/-- The character after a backslash. -/
def readEscape : List Char → Option (Char × List Char)
  | '"' :: rest => some ('"', rest)
  | '\\' :: rest => some ('\\', rest)
  | '/' :: rest => some ('/', rest)
  | 'b' :: rest => some ('\x08', rest)
  | 'f' :: rest => some ('\x0c', rest)
  | 'n' :: rest => some ('\n', rest)
  | 'r' :: rest => some ('\r', rest)
  | 't' :: rest => some ('\t', rest)
  | 'u' :: rest => readUnicode rest
  | _ => none

/-- The characters of a string after its opening quote, and the rest after the closing one. -/
def readString : Nat → List Char → Option (List Char × List Char)
  | 0, _ => none
  | _ + 1, [] => none
  | fuel + 1, c :: rest =>
      if c = '"' then some ([], rest)
      else if c = '\\' then do
        let (meant, rest) ← readEscape rest
        let (more, rest) ← readString fuel rest
        return (meant :: more, rest)
      else if c.toNat < 0x20 then none
      else do
        let (more, rest) ← readString fuel rest
        return (c :: more, rest)

/-- Appends decimal digits as long as the number fits 64 bits, and counts those left over. -/
def absorb (significand : Nat) : List Char → Nat × Nat
  | [] => (significand, 0)
  | c :: rest =>
      let next := 10 * significand + (c.toNat - '0'.toNat)
      if next < Nat.pow 2 64 then absorb next rest else (significand, rest.length + 1)

/-- The exponent after its mark, which needs a digit, and the rest. -/
def readExponent (chars : List Char) : Option (Int × List Char) :=
  let (negative, chars) :=
    match chars with
    | '+' :: rest => (false, rest)
    | '-' :: rest => (true, rest)
    | chars => (false, chars)
  let digits := chars.takeWhile Char.isDigit
  if digits.isEmpty then none
  else
    let value : Int := (digits.foldl (fun n c => 10 * n + (c.toNat - '0'.toNat)) 0 : Nat)
    some (if negative then -value else value, chars.drop digits.length)

/-- An integer keeps its value if it fits 64 bits; a negative zero does not. -/
def integerNumber (negative : Bool) (significand : Nat) : Option Number :=
  if !negative then some (.integer significand)
  else if 0 < significand ∧ significand ≤ Nat.pow 2 63 then some (.integer (-significand))
  else (Binary64.scaled true significand 0).map .real

/-- A number after its sign. Digits beyond 64 bits count as places only. -/
def readMagnitude (negative : Bool) (chars : List Char) : Option (Number × List Char) := do
  let whole := chars.takeWhile Char.isDigit
  let rest := chars.drop whole.length
  if whole.isEmpty ∨ (1 < whole.length ∧ whole.head? = some '0') then none
  let (significand, left) := absorb 0 whole
  let (significand, places, isReal, rest) ←
    match rest with
    | '.' :: rest =>
        let digits := rest.takeWhile Char.isDigit
        let (significand, unread) := absorb significand digits
        if digits.isEmpty then none
        else
          let places := (left : Int) - (digits.length - unread : Nat)
          some (significand, places, true, rest.drop digits.length)
    | rest => some (significand, (left : Int), decide (0 < left), rest)
  match rest with
  | 'e' :: rest | 'E' :: rest =>
      let (exponent, rest) ← readExponent rest
      let value ← Binary64.scaled negative significand (places + exponent)
      return (.real value, rest)
  | rest =>
      if isReal then
        let value ← Binary64.scaled negative significand places
        return (.real value, rest)
      else
        let value ← integerNumber negative significand
        return (value, rest)

def readNumber : List Char → Option (Number × List Char)
  | '-' :: rest => readMagnitude true rest
  | chars => readMagnitude false chars

/-- A value that is neither an array nor an object, and the rest. -/
def readScalar (chars : List Char) : Source × List Char :=
  match chars with
  | '"' :: rest =>
      match readString (rest.length + 1) rest with
      | some (text, rest) => (.string (String.ofList text), rest)
      | none => (.broken, [])
  | 't' :: 'r' :: 'u' :: 'e' :: rest => (.boolean true, rest)
  | 'f' :: 'a' :: 'l' :: 's' :: 'e' :: rest => (.boolean false, rest)
  | 'n' :: 'u' :: 'l' :: 'l' :: rest => (.null, rest)
  | chars =>
      match readNumber chars with
      | some (.integer value, rest) => (.integer value, rest)
      | some (.real value, rest) => (.real value, rest)
      | none => (.broken, [])

mutual

/-- A value and the rest; `depth` more levels of nesting are allowed. -/
def readValue : Nat → Nat → List Char → Source × List Char
  | 0, _, _ => (.broken, [])
  | fuel + 1, depth, chars =>
      match skipBlanks chars, depth with
      | '[' :: rest, depth + 1 =>
          match skipBlanks rest with
          | ']' :: rest => (.array [] true, rest)
          | rest =>
              let (items, closed, rest) := readItems fuel depth rest
              (.array items closed, rest)
      | '\x7b' :: rest, depth + 1 =>
          match skipBlanks rest with
          | '\x7d' :: rest => (.object [] true, rest)
          | rest =>
              let (members, closed, rest) := readMembers fuel depth rest
              (.object members closed, rest)
      | chars, _ => readScalar chars

/-- The items of an array, whether it is closed, and the rest. -/
def readItems : Nat → Nat → List Char → List Source × Bool × List Char
  | 0, _, _ => ([], false, [])
  | fuel + 1, depth, chars =>
      match skipBlanks chars with
      | ']' :: _ => ([], false, [])
      | chars =>
          let (item, rest) := readValue fuel depth chars
          if item.isOpen then ([item], false, [])
          else
            match skipBlanks rest with
            | ',' :: rest =>
                let (items, closed, rest) := readItems fuel depth rest
                (item :: items, closed, rest)
            | ']' :: rest => ([item], true, rest)
            | _ => ([item], false, [])

/-- The members of an object, whether it is closed, and the rest. -/
def readMembers : Nat → Nat → List Char → List (String × Source) × Bool × List Char
  | 0, _, _ => ([], false, [])
  | fuel + 1, depth, chars =>
      match skipBlanks chars with
      | '"' :: rest =>
          match readString (rest.length + 1) rest with
          | none => ([], false, [])
          | some (text, rest) =>
              let name := String.ofList text
              match skipBlanks rest with
              | ':' :: rest =>
                  let (item, rest) := readValue fuel depth rest
                  if item.isOpen then ([(name, item)], false, [])
                  else
                    match skipBlanks rest with
                    | ',' :: rest =>
                        let (members, closed, rest) := readMembers fuel depth rest
                        ((name, item) :: members, closed, rest)
                    | '\x7d' :: rest => ([(name, item)], true, rest)
                    | _ => ([(name, item)], false, [])
              | _ => ([(name, .broken)], false, [])
      | _ => ([], false, [])

end

/-- Levels of nesting that a text may have. -/
def maxNesting : Nat := 127

def read (text : String) : Reading :=
  let chars := text.toList
  let (root, rest) := readValue (chars.length + 2) maxNesting chars
  ⟨root, (skipBlanks rest).isEmpty⟩

end EntityViews.JsonText
