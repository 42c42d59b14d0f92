import Destructure.Number.Basic

set_option autoImplicit false

/-! # Rounding to the nearest number

`Number.nearest num den` is the magnitude of the number nearest to the ratio `num / den`, an exact
tie going to the even significand and a value past the largest finite number to infinity.

Reading decimal text uses it in two ways: `Number.ofDecimal` rounds once, and
`Number.ofScaledDecimal?` rounds the leading digits first and then scales them by a power of ten,
rounding again after each scaling. The second is what plain data texts are read with, so the last
bit of a long decimal may differ from the nearest number. -/

namespace Destructure.Number

/-- `num / den` rounded to an integer, a half going to the even neighbour. -/
def roundHalfEven (num den : Nat) : Nat :=
  let q := num / den
  let r := num % den
  if 2 * r < den then q
  else if den < 2 * r then q + 1
  else if q % 2 = 0 then q else q + 1

/-- The power of two at or below `num / den`, for a positive ratio. -/
def binaryExponent (num den : Nat) : Int :=
  let guess : Int := (num.log2 : Int) - den.log2
  let below : Bool := match guess with
    | .ofNat e => num < den * Nat.pow 2 e
    | .negSucc e => num * Nat.pow 2 (e + 1) < den
  if below then guess - 1 else guess

/-- The magnitude of the number nearest to `num / den`. -/
def nearest (num den : Nat) : Nat :=
  if num = 0 then 0
  else
    let unit := max (binaryExponent num den - 52) (-1074)
    let significand := match unit with
      | .ofNat e => roundHalfEven num (den * Nat.pow 2 e)
      | .negSucc e => roundHalfEven (num * Nat.pow 2 (e + 1)) den
    min ((unit + 1074).toNat * Nat.pow 2 52 + significand) infinityMagnitude

/-- The number nearest to an integer. -/
def ofInt (n : Int) : Number := ofMagnitude (decide (n < 0)) (nearest n.natAbs 1)

def ofNat (n : Nat) : Number := ofMagnitude false (nearest n 1)

/-- The product of two non-negative finite magnitudes, rounded. -/
def timesMagnitude (x y : Number) : Nat :=
  nearest (x.ratio.1 * y.ratio.1) (x.ratio.2 * y.ratio.2)

/-- The quotient of two positive finite magnitudes, rounded. -/
def overMagnitude (x y : Number) : Nat :=
  nearest (x.ratio.1 * y.ratio.2) (x.ratio.2 * y.ratio.1)

/-! ## Decimal scaling -/

/-- The largest power of ten that is a finite number. -/
def largestPowerOfTen : Nat := 308

/-- The number nearest to `10 ^ e`. -/
def powerOfTen (e : Nat) : Number := ofNat (Nat.pow 10 e)

/-- `x` times `10 ^ e`, rounded; `none` when that is too large to be a finite number. -/
def scaleUp? (x : Number) (e : Nat) : Option Number :=
  if e ≤ largestPowerOfTen then
    let y := ofMagnitude false (timesMagnitude x (powerOfTen e))
    if y.isFinite then some y else none
  else if x.isZero then some x else none

/-- `x` over `10 ^ e`, divided by at most the largest power of ten at a time. -/
def scaleDown (x : Number) (e : Nat) : Number :=
  if e ≤ largestPowerOfTen then ofMagnitude false (overMagnitude x (powerOfTen e))
  else if x.isZero then x
  else scaleDown (ofMagnitude false (overMagnitude x (powerOfTen largestPowerOfTen)))
    (e - largestPowerOfTen)
termination_by e
decreasing_by simp only [largestPowerOfTen] at *; omega

/-- The magnitude of `digits * 10 ^ exponent`, where `digits` is rounded before it is scaled;
`none` when the result is too large. -/
def ofScaledDecimal? (digits : Nat) (exponent : Int) : Option Number :=
  match exponent with
  | .ofNat e => scaleUp? (ofNat digits) e
  | .negSucc e => some (scaleDown (ofNat digits) (e + 1))

/-- The number nearest to `digits * 10 ^ exponent`; infinite when that is too large. -/
def ofDecimal (digits : Nat) (exponent : Int) : Number :=
  match exponent with
  | .ofNat e => ofNat (digits * Nat.pow 10 e)
  | .negSucc e => ofMagnitude false (nearest digits (Nat.pow 10 (e + 1)))

end Destructure.Number
