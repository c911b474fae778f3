import EntityViews.Calendar
import EntityViews.Text.Digits

/-! Dates and times of a TOML text.
They are checked against the calendar and written back in one canonical form.
-/

namespace EntityViews.TomlText

/-- The number of exactly so many decimal digits at the front, and the rest. -/
def readPlaces (places : Nat) (chars : List Char) : Option (Nat × List Char) :=
  let digits := chars.take places
  if digits.length = places ∧ digits.all Char.isDigit then
    some (Text.numberOf 10 digits, chars.drop places)
  else none

/-- The rest of a text that begins with the given character. -/
def readMark (mark : Char) : List Char → Option (List Char)
  | c :: rest => if c = mark then some rest else none
  | [] => none

/-- A date, written year-month-day. -/
def readDate (chars : List Char) : Option (String × List Char) := do
  let (year, rest) ← readPlaces 4 chars
  let (month, rest) ← readPlaces 2 (← readMark '-' rest)
  let (day, rest) ← readPlaces 2 (← readMark '-' rest)
  if 1 ≤ month ∧ month ≤ 12 ∧ 1 ≤ day ∧ day ≤ Calendar.daysInMonth year month then
    some (s!"{Text.padded 4 year}-{Text.padded 2 month}-{Text.padded 2 day}", rest)
  else none

/-- The fraction of a second after its point: nine digits count, and zeros at the end of
them are dropped.
-/
def readFraction : List Char → Option (String × List Char)
  | '.' :: rest =>
      let digits := rest.takeWhile Char.isDigit
      if digits.isEmpty then none
      else
        let kept := ((digits.take 9).reverse.dropWhile (· = '0')).reverse
        let shown := if kept.isEmpty then [] else '.' :: kept
        some (String.ofList shown, rest.drop digits.length)
  | chars => some ("", chars)

/-- An hour and a minute, with a colon between them. -/
def readHourMinute (chars : List Char) : Option (String × List Char) := do
  let (hour, rest) ← readPlaces 2 chars
  let (minute, rest) ← readPlaces 2 (← readMark ':' rest)
  if hour ≤ 23 ∧ minute ≤ 59 then
    some (s!"{Text.padded 2 hour}:{Text.padded 2 minute}", rest)
  else none

/-- A time of the day with its seconds; a leap second is allowed. -/
def readTime (chars : List Char) : Option (String × List Char) := do
  let (start, rest) ← readHourMinute chars
  let (second, rest) ← readPlaces 2 (← readMark ':' rest)
  if 60 < second then none
  let (fraction, rest) ← readFraction rest
  return (s!"{start}:{Text.padded 2 second}{fraction}", rest)

/-- The offset of a time from universal time, if one is given. -/
def readOffset : List Char → Option (String × List Char)
  | 'Z' :: rest => some ("Z", rest)
  | 'z' :: rest => some ("Z", rest)
  | '+' :: rest => do
      let (offset, rest) ← readHourMinute rest
      return ("+" ++ offset, rest)
  | '-' :: rest => do
      let (offset, rest) ← readHourMinute rest
      return ((if offset = "00:00" then "+" else "-") ++ offset, rest)
  | chars => some ("", chars)

/-- The time after a date and a separator, if there is one. -/
def readTimeOfDate : List Char → Option (String × List Char)
  | mark :: rest => do
      if mark = 'T' ∨ mark = 't' ∨ mark = ' ' then
        let (time, rest) ← readTime rest
        let (offset, rest) ← readOffset rest
        return ("T" ++ time ++ offset, rest)
      else none
  | [] => none

/-- A date, a time or both in canonical form, and the rest. -/
def readDateTime (chars : List Char) : Option (String × List Char) :=
  match readDate chars with
  | some (date, rest) =>
      match readTimeOfDate rest with
      | some (time, rest) => some (date ++ time, rest)
      | none => some (date, rest)
  | none => readTime chars

end EntityViews.TomlText
