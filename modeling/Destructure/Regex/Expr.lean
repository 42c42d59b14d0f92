import Destructure.Regex.CharSet

set_option autoImplicit false

/-! # Regular expressions

The tree of a regular expression. Alternatives and repetitions carry a preference: the first
alternative before the second, more repetitions before fewer when greedy and fewer before more when
not. The preferred way to match at the leftmost position is the match. -/

namespace Destructure.Regex

/-- Conditions on a position that consume nothing. `wide` words are Unicode words, the others are
made of ASCII letters, digits and the underscore. -/
inductive Look where
  | textStart
  | textEnd
  | lineStart
  | lineEnd
  /-- The same with both `\r` and `\n` ending lines. -/
  | returnLineStart
  | returnLineEnd
  | wordBoundary (wide : Bool)
  | notWordBoundary (wide : Bool)
  | wordStart (wide : Bool)
  | wordEnd (wide : Bool)
  | wordStartHalf (wide : Bool)
  | wordEndHalf (wide : Bool)

/-- A regular expression. -/
inductive Expr where
  | empty
  | set (chars : CharSet)
  | look (condition : Look)
  /-- A capture group and its number, counted from one. -/
  | group (index : Nat) (inner : Expr)
  | seq (first second : Expr)
  | either (first second : Expr)
  | repeated (inner : Expr) (min : Nat) (max : Option Nat) (greedy : Bool)

namespace Expr

/-- Whether only the empty text can match. -/
def onlyEmpty : Expr → Bool
  | .empty => true
  | .set _ => false
  | .look _ => true
  | .group _ inner => inner.onlyEmpty
  | .seq first second => first.onlyEmpty && second.onlyEmpty
  | .either first second => first.onlyEmpty && second.onlyEmpty
  | .repeated inner _ _ _ => inner.onlyEmpty

/-- The repetition of an expression. What may be repeated no times only is empty, and repeating what
only matches the empty text is repeating it at most once. -/
def times (inner : Expr) (min : Nat) (max : Option Nat) (greedy : Bool) : Expr :=
  if max = some 0 then .empty
  else if inner.onlyEmpty then
    let least := if min = 0 then 0 else 1
    if least = 1 then inner else .repeated inner 0 (some 1) greedy
  else if min = 1 ∧ max = some 1 then inner
  else .repeated inner min max greedy

/-- The expressions one after the other. -/
def seqOf : List Expr → Expr
  | [] => .empty
  | [e] => e
  | e :: rest => .seq e (seqOf rest)

/-- The expressions as alternatives, the first one preferred. -/
def eitherOf : List Expr → Expr
  | [] => .empty
  | [e] => e
  | e :: rest => .either e (eitherOf rest)

/-- The greatest number of a capture group. -/
def groupCount : Expr → Nat
  | .empty => 0
  | .set _ => 0
  | .look _ => 0
  | .group index inner => max index inner.groupCount
  | .seq first second => max first.groupCount second.groupCount
  | .either first second => max first.groupCount second.groupCount
  | .repeated inner _ _ _ => inner.groupCount

/-- Whether the group of that number occurs. -/
def hasGroup (index : Nat) : Expr → Bool
  | .empty => false
  | .set _ => false
  | .look _ => false
  | .group i inner => i == index || inner.hasGroup index
  | .seq first second => first.hasGroup index || second.hasGroup index
  | .either first second => first.hasGroup index || second.hasGroup index
  | .repeated inner _ _ _ => inner.hasGroup index

/-- About how many bytes the compiled expression takes. -/
def weight : Expr → Nat
  | .empty => 32
  | .set chars => chars.weight
  | .look _ => 32
  | .group _ inner => inner.weight + 64
  | .seq first second => first.weight + second.weight
  | .either first second => first.weight + second.weight + 40
  | .repeated inner min max _ =>
    match max with
    | some max => inner.weight * max + 40 * (max - min)
    | none => inner.weight * Nat.max min 1 + 72

end Expr

end Destructure.Regex
