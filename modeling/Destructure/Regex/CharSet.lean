import Destructure.Text.Folding
import Destructure.Text.Property

set_option autoImplicit false

/-! # Character sets

The sets of characters that one position of a regular expression accepts. A set is kept as the
expression it was written as, and asked about one character at a time. -/

namespace Destructure.Regex

open Destructure.Text

/-- A set of characters. -/
inductive CharSet where
  | empty
  | range (first last : Nat)
  | table (ranges : CodeRanges)
  | digit
  | space
  | word
  | union (a b : CharSet)
  | inter (a b : CharSet)
  | minus (a b : CharSet)
  | either (a b : CharSet)
  | complement (a : CharSet)
  /-- Everything that differs from a member in case only. -/
  | folded (a : CharSet)
  /-- The same for the letters from A to Z alone. -/
  | foldedLatin (a : CharSet)

namespace CharSet

/-- The other case of a letter from A to Z. -/
def otherLatinCase (code : Nat) : Nat :=
  if 0x41 ≤ code ∧ code ≤ 0x5A then code + 0x20
  else if 0x61 ≤ code ∧ code ≤ 0x7A then code - 0x20
  else code

/-- Whether a code point is a member. -/
def containsCode : CharSet → Nat → Bool
  | .empty, _ => false
  | .range first last, code => first ≤ code && code ≤ last
  | .table ranges, code => ranges.containsCode code
  | .digit, code => Property.isDigit (Char.ofNat code)
  | .space, code => Property.isSpace (Char.ofNat code)
  | .word, code => Property.isWord (Char.ofNat code)
  | .union a b, code => a.containsCode code || b.containsCode code
  | .inter a b, code => a.containsCode code && b.containsCode code
  | .minus a b, code => a.containsCode code && !b.containsCode code
  | .either a b, code => a.containsCode code != b.containsCode code
  | .complement a, code => !a.containsCode code
  | .folded a, code => (Folding.variants code).any fun variant => a.containsCode variant
  | .foldedLatin a, code => a.containsCode code || a.containsCode (otherLatinCase code)

def contains (set : CharSet) (c : Char) : Bool := set.containsCode c.toNat

def single (c : Char) : CharSet := .range c.toNat c.toNat

def unionOf (sets : List CharSet) : CharSet :=
  match sets with
  | [] => .empty
  | [set] => set
  | set :: rest => rest.foldl .union set

/-- The set of some ranges of ASCII characters. -/
def ascii (ranges : List (Char × Char)) : CharSet :=
  unionOf (ranges.map fun (first, last) => .range first.toNat last.toNat)

/-- Whether a set holds ASCII characters only. A set written without Unicode classes treats all
characters beyond ASCII alike, so one of them stands for all. -/
def isAscii (set : CharSet) : Bool := !set.containsCode 0x80

/-- About how many bytes a compiled set takes. -/
def weight : CharSet → Nat
  | .empty => 32
  | .range first last =>
    if first = last then 32 * (Char.ofNat first).utf8Size else if last < 0x80 then 72 else 150
  | .table ranges => 65 * ranges.ranges.size
  | .digit => 4000
  | .space => 650
  | .word => 50000
  | .union a b | .inter a b | .minus a b | .either a b => max a.weight b.weight + 8
  | .complement a => a.weight + 400
  | .folded a | .foldedLatin a => a.weight + 64

end CharSet

end Destructure.Regex
