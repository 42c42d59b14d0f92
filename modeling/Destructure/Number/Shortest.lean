import Destructure.Number.Rounding

set_option autoImplicit false

/-! # The shortest decimal that reads back

A finite number is printed with the fewest decimal digits that still round to it, and of those with
the nearest ones. `Number.shortest` finds them by exact arithmetic: for one digit, two digits and so
on it takes the two neighbours of the value on that decimal grid, and the first grid that has a
neighbour inside the number's rounding interval wins.

How digits and exponent are laid out is a separate choice (`Layout`), made once by each format. -/

namespace Destructure

/-- A positive decimal `0.d₁d₂… * 10 ^ (exponent + 1)`, that is `d₁.d₂… * 10 ^ exponent`. -/
structure Decimal where
  /-- The digits, first one not zero, last one not zero. -/
  digits : List Char
  /-- The exponent of scientific notation. -/
  exponent : Int
deriving DecidableEq

namespace Number

/-- The decimal digits of a natural number, first digit first. -/
def digitsOf (n : Nat) : List Char := Nat.toDigits 10 n

/-- The power of ten at or below `num / den`, for a positive ratio. -/
def decimalExponent (num den : Nat) : Int :=
  if den ≤ num then ((digitsOf (num / den)).length : Int) - 1
  else -((digitsOf ((den + num - 1) / num - 1)).length : Int)

/-- A rounding interval over one denominator, its ends belonging to it or not. -/
structure Interval where
  low : Nat
  value : Nat
  high : Nat
  den : Nat
  closed : Bool

/-- The ratios that round to a finite positive number. The gap below a power of two is half as wide
as the gap above it. -/
def interval (x : Number) : Interval :=
  let s := x.significand
  let below := if s = Nat.pow 2 52 ∧ -1074 < x.exponent then 1 else 2
  let (scale, den) := match x.exponent - 2 with
    | .ofNat e => (Nat.pow 2 e, 1)
    | .negSucc e => (1, Nat.pow 2 (e + 1))
  ⟨(4 * s - below) * scale, 4 * s * scale, (4 * s + 2) * scale, den, s % 2 = 0⟩

/-- Whether `num / unit` lies in the interval, both scaled to one denominator. -/
def Interval.contains (i : Interval) (scale candidate : Nat) : Bool :=
  if i.closed then i.low * scale ≤ candidate && candidate ≤ i.high * scale
  else i.low * scale < candidate && candidate < i.high * scale

/-- The multiple of `10 ^ grid` nearest to the value among those of its two neighbours that lie in
the interval. -/
def Interval.onGrid (i : Interval) (grid : Int) : Option Nat :=
  let (scale, unit) := match grid with
    | .ofNat e => (1, i.den * Nat.pow 10 e)
    | .negSucc e => (Nat.pow 10 (e + 1), i.den)
  let value := i.value * scale
  let down := value / unit
  let up := down + 1
  match i.contains scale (down * unit), i.contains scale (up * unit) with
  | false, false => none
  | true, false => some down
  | false, true => some up
  | true, true =>
    let toDown := value - down * unit
    let toUp := up * unit - value
    if toDown < toUp then some down
    else if toUp < toDown then some up
    else some (if down % 2 = 0 then down else up)

/-- Search the grids of `count`, `count + 1`, … digits, at most `fuel` of them. -/
def Interval.search (i : Interval) (leading : Int) : Nat → Nat → Nat × Int
  | 0, _ => (i.value / i.den, 0)
  | fuel + 1, count =>
    let grid := leading - count + 1
    match i.onGrid grid with
    | some n => (n, grid)
    | none => i.search leading fuel (count + 1)

/-- Drop the zeros at the end. -/
def trimZeros (digits : List Char) : List Char := (digits.reverse.dropWhile (· == '0')).reverse

/-- The fewest digits that read back as a finite positive number. -/
def shortest (x : Number) : Decimal :=
  let i := x.interval
  let leading := decimalExponent i.value i.den
  let (n, grid) := i.search leading 17 1
  let digits := digitsOf n
  ⟨trimZeros digits, grid + digits.length - 1⟩

end Number

/-! ## Layouts -/

/-- How a decimal is laid out: positional for exponents from `lowest` to `highest`, scientific
otherwise. -/
structure Layout where
  lowest : Int
  highest : Int
  /-- Whether a scientific exponent that is not negative carries a plus sign. -/
  plusSign : Bool

namespace Layout

/-- Digits around a decimal point, with at least one digit on either side of it. -/
def positional (d : Decimal) : List Char :=
  match d.exponent with
  | .ofNat e =>
    let whole := d.digits.take (e + 1)
    let padding := List.replicate (e + 1 - whole.length) '0'
    let fraction := d.digits.drop (e + 1)
    whole ++ padding ++ '.' :: (if fraction.isEmpty then ['0'] else fraction)
  | .negSucc e => '0' :: '.' :: List.replicate e '0' ++ d.digits

/-- One digit, the others after a point, and the exponent. -/
def scientific (layout : Layout) (d : Decimal) : List Char :=
  let mantissa := match d.digits with
    | first :: second :: rest => first :: '.' :: second :: rest
    | digits => digits
  let exponent := match d.exponent with
    | .ofNat e => (if layout.plusSign then ['+'] else []) ++ Number.digitsOf e
    | .negSucc e => '-' :: Number.digitsOf (e + 1)
  mantissa ++ 'e' :: exponent

/-- A positive decimal in this layout. -/
def decimal (layout : Layout) (d : Decimal) : List Char :=
  if layout.lowest ≤ d.exponent ∧ d.exponent ≤ layout.highest then positional d
  else layout.scientific d

/-- A finite number in this layout. -/
def write (layout : Layout) (x : Number) : String :=
  let sign := if x.negative then ['-'] else []
  let body := if x.isZero then ['0', '.', '0'] else layout.decimal x.shortest
  String.ofList (sign ++ body)

end Layout

end Destructure
