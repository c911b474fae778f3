import EntityViews.Binary64.Shortest

/-! The written form of a double: its shortest digits, with a decimal point or an exponent.
A layout says for which leading exponents the point is used.
-/

namespace EntityViews.Binary64

/-- Leading exponents from `positionalFrom` up to below `positionalTo` are written with a
decimal point; the others are written with an exponent.
-/
structure Layout where
  positionalFrom : Int
  positionalTo : Int
deriving DecidableEq, Repr

/-- Numbers of a JSON text use the point from `0.00001` up to below `10 ^ 16`. -/
def jsonLayout : Layout :=
  ⟨-5, 16⟩

/-- Messages about other texts use the point for every number. -/
def plainLayout : Layout :=
  ⟨-400, 400⟩

/-- The digits with a point after the first `whole` of them, and at least one digit on each
side of it.
-/
def positional (digits : List Char) (whole : Int) : List Char :=
  if whole ≤ 0 then
    '0' :: '.' :: (List.replicate (-whole).toNat '0' ++ digits)
  else
    let places := whole.toNat
    let head := digits.take places ++ List.replicate (places - digits.length) '0'
    let tail := digits.drop places
    head ++ '.' :: (if tail.isEmpty then ['0'] else tail)

/-- The digits with a point after the first one and a signed power of ten. -/
def scientific (digits : List Char) (exponent : Int) : List Char :=
  let mantissa :=
    match digits with
    | first :: second :: rest => first :: '.' :: second :: rest
    | short => short
  let sign := if exponent < 0 then '-' else '+'
  mantissa ++ 'e' :: sign :: Nat.toDigits 10 exponent.natAbs

/-- The magnitude of a double in a layout; a zero is `0.0`. -/
def magnitudeText (layout : Layout) (x : Binary64) : List Char :=
  if x.mantissa = 0 then ['0', '.', '0']
  else
    let decimal := x.shortest
    let digits := Nat.toDigits 10 decimal.digits
    let leading := decimal.exponent + (digits.length : Int) - 1
    if layout.positionalFrom ≤ leading ∧ leading < layout.positionalTo then
      positional digits (leading + 1)
    else scientific digits leading

/-- A double in a layout, with a sign if it is negative. -/
def text (layout : Layout) (x : Binary64) : String :=
  String.ofList (if x.negative then '-' :: magnitudeText layout x else magnitudeText layout x)

end EntityViews.Binary64
