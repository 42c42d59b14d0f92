set_option autoImplicit false

/-! # Sets of code points

A character class of a standard is a table of ascending code point ranges. Tables are written as
text, ranges of hexadecimal code points between blanks, and looked up by bisection. -/

namespace Destructure.Text

/-- Ascending, disjoint ranges of code points, both ends included. -/
structure CodeRanges where
  ranges : Array (Nat × Nat)
deriving Inhabited

namespace CodeRanges

/-- The value of a hexadecimal digit; `0` for any other character. -/
def hexDigit (c : Char) : Nat :=
  if '0' ≤ c ∧ c ≤ '9' then c.toNat - 48
  else if 'A' ≤ c ∧ c ≤ 'F' then c.toNat - 55
  else if 'a' ≤ c ∧ c ≤ 'f' then c.toNat - 87
  else 0

/-- Add the range that ends with `code` to the ranges read so far, if there is one. -/
def close (done : List (Nat × Nat)) (first code : Option Nat) : List (Nat × Nat) :=
  match code with
  | none => done
  | some last => (first.getD last, last) :: done

/-- Read ranges one character at a time: `done` holds the ranges read so far, last one first, `first`
the start of an open range, and `code` the digits of the number being read. -/
def readRanges : List Char → List (Nat × Nat) → Option Nat → Option Nat → List (Nat × Nat)
  | [], done, first, code => close done first code
  | c :: rest, done, first, code =>
    if c == ' ' || c == '\n' then readRanges rest (close done first code) none none
    else if c == '-' then readRanges rest done code none
    else readRanges rest done first (some (code.getD 0 * 16 + hexDigit c))

/-- The table that a text such as `"41-5A 61-7A AA"` stands for. -/
def ofText (text : String) : CodeRanges :=
  ⟨(readRanges text.toList [] none none).reverse.toArray⟩

/-- Bisection between the positions `low` and `high`, at most `fuel` times. -/
def search (table : CodeRanges) (code : Nat) : Nat → Nat → Nat → Bool
  | 0, _, _ => false
  | fuel + 1, low, high =>
    if low < high then
      let middle := (low + high) / 2
      match table.ranges[middle]? with
      | none => false
      | some (first, last) =>
        if code < first then table.search code fuel low middle
        else if last < code then table.search code fuel (middle + 1) high
        else true
    else false

/-- Whether a code point lies in one of the ranges. -/
def containsCode (table : CodeRanges) (code : Nat) : Bool :=
  table.search code (table.ranges.size + 1) 0 table.ranges.size

def contains (table : CodeRanges) (c : Char) : Bool := table.containsCode c.toNat

end CodeRanges

end Destructure.Text
