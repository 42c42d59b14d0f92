set_option autoImplicit false

/-! # Numbers

Every number is a 64-bit binary floating-point value, kept as its bit pattern: one sign bit, eleven
exponent bits and fifty-two fraction bits. Keeping the pattern, and not a machine float, makes
equality, order, rounding and printing exact arithmetic on integers.

Without its sign bit a pattern is a natural number, the *magnitude*, and magnitudes order numbers
the way their absolute values do. That is why comparing two numbers is comparing two integers
(`Number.key`): both zeros have the key `0`, and the patterns beyond infinity are the NaNs, which
compare with nothing. -/

namespace Destructure

/-- A 64-bit binary floating-point number. -/
structure Number where
  bits : UInt64
deriving DecidableEq, Inhabited

namespace Number

/-- The weight of the sign bit. -/
def signBit : Nat := Nat.pow 2 63

/-- The magnitude of infinity: all exponent bits set, no fraction bit. -/
def infinityMagnitude : Nat := 0x7FF0000000000000

/-- The pattern with sign `negative` and the given magnitude. -/
def ofMagnitude (negative : Bool) (magnitude : Nat) : Number :=
  ⟨UInt64.ofNat (if negative then magnitude + signBit else magnitude)⟩

/-- Whether the sign bit is set; true of negative zero. -/
def negative (x : Number) : Bool := decide (signBit ≤ x.bits.toNat)

/-- The pattern without its sign bit. -/
def magnitude (x : Number) : Nat := x.bits.toNat % signBit

def isNaN (x : Number) : Bool := decide (infinityMagnitude < x.magnitude)

def isFinite (x : Number) : Bool := decide (x.magnitude < infinityMagnitude)

def isZero (x : Number) : Bool := decide (x.magnitude = 0)

def zero : Number := ofMagnitude false 0

def infinity : Number := ofMagnitude false infinityMagnitude

/-- The quiet NaN with no further payload. -/
def nan : Number := ofMagnitude false 0x7FF8000000000000

/-- The number with the opposite sign bit. -/
def negate (x : Number) : Number := ofMagnitude (!x.negative) x.magnitude

/-! ## Equality and order -/

/-- The place of a number on the number line; the two zeros share one place. -/
def key (x : Number) : Int := if x.negative then -(x.magnitude : Int) else x.magnitude

/-- Numeric equality: the zeros are equal, and a NaN equals nothing, itself included. -/
def equals (x y : Number) : Bool := !x.isNaN && !y.isNaN && decide (x.key = y.key)

/-- Numeric order; `none` when one of the two is a NaN. -/
def compare? (x y : Number) : Option Ordering :=
  if x.isNaN || y.isNaN then none else some (compare x.key y.key)

theorem equals_comm (x y : Number) : x.equals y = y.equals x := by
  simp only [equals, Bool.and_comm x.isNaN.not, eq_comm (a := x.key)]

theorem equals_trans {x y z : Number} (hxy : x.equals y = true) (hyz : y.equals z = true) :
    x.equals z = true := by
  simp only [equals, Bool.and_eq_true, decide_eq_true_eq] at hxy hyz ⊢
  exact ⟨⟨hxy.1.1, hyz.1.2⟩, hxy.2.trans hyz.2⟩

theorem equals_self (x : Number) : x.equals x = !x.isNaN := by
  simp [equals]

/-! ## Exact values

A finite number is `significand * 2 ^ exponent`, with a significand below `2 ^ 53` and an exponent
of at least `-1074`. -/

/-- The integer that scales the unit of a finite number. -/
def significand (x : Number) : Nat :=
  if x.magnitude / Nat.pow 2 52 = 0 then x.magnitude
  else x.magnitude % Nat.pow 2 52 + Nat.pow 2 52

/-- The power of two that is the unit of a finite number. -/
def exponent (x : Number) : Int :=
  if x.magnitude / Nat.pow 2 52 = 0 then -1074 else (x.magnitude / Nat.pow 2 52 : Nat) - 1075

/-- The absolute value of a finite number as a numerator over a denominator. -/
def ratio (x : Number) : Nat × Nat :=
  match x.exponent with
  | .ofNat e => (x.significand * Nat.pow 2 e, 1)
  | .negSucc e => (x.significand, Nat.pow 2 (e + 1))

/-- The bound below which every integer is a number of its own. -/
def exactBound : Nat := Nat.pow 2 53

/-- The integer that a number is, if it is one and lies strictly between `-2 ^ 53` and `2 ^ 53`. -/
def toInt? (x : Number) : Option Int :=
  if x.isFinite then
    let (num, den) := x.ratio
    if num % den = 0 ∧ num / den < exactBound then
      some (if x.negative then -(num / den : Nat) else (num / den : Nat))
    else none
  else none

end Number

end Destructure
