/-! Finite double-precision numbers as a sign, a mantissa and a power of two.
Every operation computes the exact rational and rounds once, to nearest with ties to even.
-/

namespace EntityViews

/-- The number `± mantissa · 2 ^ exponent`. Rounding keeps the mantissa below `2 ^ 53` and
the exponent as small as that allows, but not below `-1074`.
-/
structure Binary64 where
  negative : Bool
  mantissa : Nat
  exponent : Int
deriving DecidableEq, Repr, Inhabited

namespace Binary64

def zero (negative : Bool) : Binary64 :=
  ⟨negative, 0, -1074⟩

/-- Rounds `num / den` to the nearest integer; a tie goes to the even neighbour. -/
def roundQuotient (num den : Nat) : Nat :=
  let quotient := num / den
  let rest := num % den
  if 2 * rest < den then quotient
  else if den < 2 * rest then quotient + 1
  else quotient + quotient % 2

/-- `num / den` as a quotient of integers after division by `2 ^ exponent`. -/
def scaleRatio (num den : Nat) (exponent : Int) : Nat × Nat :=
  if 0 ≤ exponent then (num, den * Nat.pow 2 exponent.toNat)
  else (num * Nat.pow 2 (-exponent).toNat, den)

/-- The exponent at which `num / den` fills 53 bits, or `-1074` if that is greater. -/
def exponentOf (num den : Nat) : Int :=
  let estimate : Int := (Nat.log2 num : Int) - (Nat.log2 den : Int) - 52
  let (scaled, unit) := scaleRatio num den estimate
  max (if scaled < Nat.pow 2 52 * unit then estimate - 1 else estimate) (-1074)

/-- The double nearest to `num / den`, or nothing when it lies beyond the greatest one. -/
def ofRatio (negative : Bool) (num den : Nat) : Option Binary64 :=
  if num = 0 then some (zero negative)
  else
    let exponent := exponentOf num den
    let (scaled, unit) := scaleRatio num den exponent
    let mantissa := roundQuotient scaled unit
    let rounded : Binary64 :=
      if mantissa = Nat.pow 2 53 then ⟨negative, Nat.pow 2 52, exponent + 1⟩
      else ⟨negative, mantissa, exponent⟩
    if rounded.exponent ≤ 971 then some rounded else none

/-- The magnitude as a numerator and a denominator. -/
def ratio (x : Binary64) : Nat × Nat :=
  if 0 ≤ x.exponent then (x.mantissa * Nat.pow 2 x.exponent.toNat, 1)
  else (x.mantissa, Nat.pow 2 (-x.exponent).toNat)

/-- The rounded product of the magnitudes; both factors count as positive. -/
def mulMagnitude (x y : Binary64) : Option Binary64 :=
  ofRatio false (x.ratio.1 * y.ratio.1) (x.ratio.2 * y.ratio.2)

/-- The rounded quotient of the magnitudes; both operands count as positive. -/
def divMagnitude (x y : Binary64) : Option Binary64 :=
  ofRatio false (x.ratio.1 * y.ratio.2) (x.ratio.2 * y.ratio.1)

/-- The double nearest to a power of ten, or nothing from `10 ^ 309` on. -/
def powerOfTen (exponent : Nat) : Option Binary64 :=
  ofRatio false (Nat.pow 10 exponent) 1

/-- The double nearest to `digits · 10 ^ exponent`, rounded once. -/
def ofDecimal (negative : Bool) (digits : Nat) (exponent : Int) : Option Binary64 :=
  if digits = 0 then some (zero negative)
  else if 0 ≤ exponent then
    if 400 < exponent then none else ofRatio negative (digits * Nat.pow 10 exponent.toNat) 1
  else if exponent < -400 - Nat.log2 digits then some (zero negative)
  else ofRatio negative digits (Nat.pow 10 (-exponent).toNat)

/-- Divides by `10 ^ 308` so many times; a zero stays as it is. -/
def divideRepeatedly (x : Binary64) : Nat → Option Binary64
  | 0 => some x
  | steps + 1 =>
      if x.mantissa = 0 then some x
      else
        match (powerOfTen 308).bind x.divMagnitude with
        | some quotient => quotient.divideRepeatedly steps
        | none => none

/-- Divides by `10 ^ exponent` in steps that a power of ten fits, the greatest steps first. -/
def scaleDown (x : Binary64) (exponent : Nat) : Option Binary64 := do
  let steps := (exponent - 1) / 308
  let reduced ← x.divideRepeatedly steps
  if reduced.mantissa = 0 then return reduced
  let divisor ← powerOfTen (exponent - 308 * steps)
  reduced.divMagnitude divisor

/-- The double that scaling `digits` by a power of ten gives: the digits are rounded first
and the product or quotient is rounded again, so the result may be off by a last bit.
-/
def scaled (negative : Bool) (digits : Nat) (exponent : Int) : Option Binary64 := do
  let start ← ofRatio false digits 1
  let magnitude ←
    if 0 ≤ exponent then
      if start.mantissa = 0 ∧ 308 < exponent then pure start
      else if 308 < exponent then none
      else (powerOfTen exponent.toNat).bind start.mulMagnitude
    else start.scaleDown (-exponent).toNat
  return { magnitude with negative }

end Binary64

end EntityViews
