import EntityViews.Source
import EntityViews.Text.Digits

/-! Numbers of a TOML text.
An underscore may stand between two digits. Integers have 64 bits; a number beyond the greatest
double is malformed unless it is negative.
-/

namespace EntityViews.TomlText

/-- Digits up to the first character that is none, single underscores between them left out,
and the rest.
-/
def moreDigits (accepts : Char → Bool) : List Char → List Char × List Char
  | '_' :: c :: rest =>
      if accepts c then
        let (digits, rest) := moreDigits accepts rest
        (c :: digits, rest)
      else ([], '_' :: c :: rest)
  | c :: rest =>
      if accepts c then
        let (digits, rest) := moreDigits accepts rest
        (c :: digits, rest)
      else ([], c :: rest)
  | [] => ([], [])

/-- At least one digit, and the rest. -/
def readDigits (accepts : Char → Bool) : List Char → Option (List Char × List Char)
  | c :: rest =>
      if accepts c then
        let (digits, rest) := moreDigits accepts rest
        some (c :: digits, rest)
      else none
  | [] => none

/-- Whether a character is a digit of a base up to sixteen. -/
def isDigitOf (base : Nat) (c : Char) : Bool :=
  (Text.hexValue? c).any (· < base)

def readBased (base : Nat) (chars : List Char) : Option (Source × List Char) := do
  let (digits, rest) ← readDigits (isDigitOf base) chars
  let value := Text.numberOf base digits
  if value < 1 <<< 63 then return (.integer value, rest) else none

/-- A sign, if there is one, and whether it is a minus. -/
def readSign : List Char → Bool × List Char
  | '-' :: rest => (true, rest)
  | '+' :: rest => (false, rest)
  | chars => (false, chars)

/-- The digits after a decimal point, none if there is no point. -/
def readPlacesAfterPoint : List Char → Option (List Char × List Char)
  | '.' :: rest => readDigits Char.isDigit rest
  | chars => some ([], chars)

/-- The power of ten after its mark, if there is one. -/
def readPower : List Char → Option (Option Int × List Char)
  | [] => some (none, [])
  | mark :: rest =>
      if mark = 'e' ∨ mark = 'E' then do
        let (negative, rest) := readSign rest
        let (digits, rest) ← readDigits Char.isDigit rest
        let power : Int := Text.numberOf 10 digits
        return (some (if negative then -power else power), rest)
      else some (none, mark :: rest)

/-- A decimal number with a fraction or a power of ten. -/
def realOf (negative : Bool) (whole places : List Char) (power : Int) : Option Source :=
  match
    Binary64.ofDecimal negative (Text.numberOf 10 (whole ++ places)) (power - places.length)
  with
  | some value => some (.real value)
  | none => if negative then some (.infinite true) else none

/-- A decimal integer of 64 bits. -/
def integerOf (negative : Bool) (whole : List Char) : Option Source :=
  let value := Text.numberOf 10 whole
  if negative then if value ≤ 1 <<< 63 then some (.integer (-value)) else none
  else if value < 1 <<< 63 then some (.integer value)
  else none

/-- A decimal number after its sign; a leading zero stands alone. -/
def readDecimal (negative : Bool) (chars : List Char) : Option (Source × List Char) := do
  let (whole, rest) ← readDigits Char.isDigit chars
  if 1 < whole.length ∧ whole.head? = some '0' then none
  let (places, rest) ← readPlacesAfterPoint rest
  let (power?, rest) ← readPower rest
  let value ←
    if places.isEmpty ∧ power?.isNone then integerOf negative whole
    else realOf negative whole places (power?.getD 0)
  return (value, rest)

/-- A number, an infinity or what is not a number, and the rest. -/
def readNumber (chars : List Char) : Option (Source × List Char) :=
  match chars with
  | '0' :: 'x' :: rest => readBased 16 rest
  | '0' :: 'o' :: rest => readBased 8 rest
  | '0' :: 'b' :: rest => readBased 2 rest
  | chars =>
      let (negative, rest) := readSign chars
      match rest with
      | 'i' :: 'n' :: 'f' :: rest => some (.infinite negative, rest)
      | 'n' :: 'a' :: 'n' :: rest => some (.notANumber, rest)
      | rest => readDecimal negative rest

end EntityViews.TomlText
