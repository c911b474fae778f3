import EntityViews.Calendar
import EntityViews.Text.Digits

/-! Points in time as log lines write them, in universal time.
-/

namespace EntityViews.Log

/-- Seconds since 1970-01-01 and nanoseconds after that second; a leap second is kept as
nanoseconds beyond the second before it.
-/
structure Timestamp where
  seconds : Int
  nanos : Nat
deriving DecidableEq, Repr, Inhabited

namespace Timestamp

/-- A year in four digits, with a sign if it is negative or needs more of them. -/
def yearText (year : Int) : String :=
  if 0 ≤ year ∧ year ≤ 9999 then Text.padded 4 year.toNat
  else (if year < 0 then "-" else "+") ++ Text.padded 4 year.natAbs

/-- The date, written year-month-day. -/
def dateText (time : Timestamp) : String :=
  let date := Calendar.Date.ofDays (time.seconds / 86400)
  s!"{yearText date.year}-{Text.padded 2 date.month}-{Text.padded 2 date.day}"

def clockText (time : Timestamp) : String :=
  let second := (time.seconds % 86400).toNat
  let shown := second % 60 + time.nanos / 1000000000
  s!"{Text.padded 2 (second / 3600)}:{Text.padded 2 (second / 60 % 60)}:"
    ++ Text.padded 2 shown

/-- The fraction of the second in thousandths, millionths or billionths, in as few digits as
are exact; nothing for a whole second.
-/
def fractionText (time : Timestamp) : String :=
  let nanos := time.nanos % 1000000000
  if nanos = 0 then ""
  else if nanos % 1000000 = 0 then "." ++ Text.padded 3 (nanos / 1000000)
  else if nanos % 1000 = 0 then "." ++ Text.padded 6 (nanos / 1000)
  else "." ++ Text.padded 9 nanos

/-- The form for programs, with the offset from universal time. -/
def exact (time : Timestamp) : String :=
  time.dateText ++ "T" ++ time.clockText ++ time.fractionText ++ "+00:00"

/-- The form for readers, cut off after the millisecond. -/
def readable (time : Timestamp) : String :=
  time.dateText ++ " " ++ time.clockText ++ "."
    ++ Text.padded 3 (time.nanos % 1000000000 / 1000000)

end Timestamp

end EntityViews.Log
