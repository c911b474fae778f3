import EntityViews.Binary64

/-! The fewest decimal digits that read back as the same double.
A decimal reads back when it lies in the interval of reals that round to the double; the ends
of the interval belong to it when the mantissa is even.
-/

namespace EntityViews.Binary64

/-- A positive decimal `digits · 10 ^ exponent`. -/
structure Decimal where
  digits : Nat
  exponent : Int
deriving DecidableEq, Repr

/-- The reals that round to a double, and the double itself, as numerators over `den`. -/
structure Interval where
  lower : Nat
  value : Nat
  upper : Nat
  den : Nat
  closed : Bool
deriving Repr

/-- The interval of a double: half a unit up, and half a unit down or a quarter of one just
above a power of two, where the neighbour below is closer.
-/
def interval (x : Binary64) : Interval :=
  let below := if x.mantissa = Nat.pow 2 52 ∧ -1074 < x.exponent then 1 else 2
  let factor := Nat.pow 2 x.exponent.toNat
  {
    lower := (4 * x.mantissa - below) * factor,
    value := 4 * x.mantissa * factor,
    upper := (4 * x.mantissa + 2) * factor,
    den := 4 * Nat.pow 2 (-x.exponent).toNat,
    closed := x.mantissa % 2 = 0
  }

/-- Whether `digits · 10 ^ exponent` lies in the interval. -/
def Interval.contains (range : Interval) (digits : Nat) (exponent : Int) : Bool :=
  let (num, den) := if 0 ≤ exponent then (digits * Nat.pow 10 exponent.toNat, 1)
    else (digits, Nat.pow 10 (-exponent).toNat)
  let point := num * range.den
  let low := range.lower * den
  let high := range.upper * den
  if range.closed then low ≤ point && point ≤ high else low < point && point < high

/-- The decimal exponent of the leading digit of `num / den`. -/
def leadingExponent (num den : Nat) : Int :=
  if den ≤ num then (Nat.toDigits 10 (num / den)).length - 1
  else -((Nat.toDigits 10 ((den - 1) / num)).length : Int)

/-- The neighbours of the value on the grid of multiples of `10 ^ exponent`: the one below or
at the value, and whether the one above is nearer, ties going to the even digit.
-/
def Interval.neighbours (range : Interval) (exponent : Int) : Nat × Bool :=
  let (num, den) := if 0 ≤ exponent then (range.value, range.den * Nat.pow 10 exponent.toNat)
    else (range.value * Nat.pow 10 (-exponent).toNat, range.den)
  let below := num / den
  (below, decide (below < roundQuotient num den))

/-- The point of the grid that reads back and is nearest to the value, if one does. -/
def Interval.onGrid (range : Interval) (exponent : Int) : Option Decimal :=
  let (below, upward) := range.neighbours exponent
  let first := if upward then below + 1 else below
  let second := if upward then below else below + 1
  if range.contains first exponent then some ⟨first, exponent⟩
  else if range.contains second exponent then some ⟨second, exponent⟩
  else none

/-- Drops the zeros at the end of the digits. -/
def Decimal.trim (d : Decimal) : Nat → Decimal
  | 0 => d
  | steps + 1 =>
      if d.digits % 10 = 0 ∧ d.digits ≠ 0 then
        Decimal.trim ⟨d.digits / 10, d.exponent + 1⟩ steps
      else d

/-- The coarsest grid on which a decimal reads back, starting at the given one. -/
def Interval.search (range : Interval) (exponent : Int) : Nat → Option Decimal
  | 0 => none
  | steps + 1 =>
      match range.onGrid exponent with
      | some found => some found
      | none => range.search (exponent - 1) steps

/-- The shortest decimal that reads back as the magnitude of a double other than zero, and
among those of one length the nearest.
-/
def shortest (x : Binary64) : Decimal :=
  let range := x.interval
  let start := leadingExponent range.value range.den
  match range.search (start + 1) 20 with
  | some found => found.trim 20
  | none => ⟨0, 0⟩

end EntityViews.Binary64
