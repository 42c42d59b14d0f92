import Destructure.Text.Quoted

set_option autoImplicit false

/-! # Errors of construction

What can be wrong with a pattern, a guard or a match expression while it is built or loaded. A tree
that has any of these defects is rejected as a whole. -/

namespace Destructure

/-- Names in ascending order. -/
def sortNames (names : List String) : List String := names.mergeSort fun a b => !decide (b < a)

/-- The tables of a registry. -/
inductive TableKind where
  | extractor
  | predicate
  | guard
  | constant
deriving DecidableEq

def TableKind.name : TableKind → String
  | .extractor => "extractor"
  | .predicate => "predicate"
  | .guard => "guard"
  | .constant => "constant"

/-- A defect found while building. -/
inductive PatternError where
  /-- Two parts that match together bind the same name. -/
  | ambiguousBinding (name : String)
  /-- A branch binds other names than the first branch; both lists are sorted. -/
  | inconsistentAlternation (expected found : List String) (branch : Nat)
  | emptyAlternation
  | emptyConjunction
  /-- A mapping pattern names a key twice. -/
  | duplicateKey (key : String)
  | depthExceeded (depth max : Nat)
  | tooManyBranches (count max : Nat)
  | tooManyClauses (count max : Nat)
  | invalidRegex (source reason : String)
  | regexTooLong (length max : Nat)
  /-- A name that its table does not hold, with the names that it does hold, in the order in which it
  goes through them. -/
  | unknownName (name : String) (table : TableKind) (available : List String)
  | invalidConfig (reason : String)
deriving DecidableEq

namespace PatternError

/-- Quoted names between brackets. -/
def nameList (names : List String) : String :=
  "[" ++ ", ".intercalate (names.map Text.quoted) ++ "]"

/-- The names to choose from, in ascending order. -/
def suggestion (table : TableKind) (available : List String) : String :=
  if available.isEmpty then " — no " ++ table.name ++ " entries are registered"
  else " — registered: " ++ ", ".intercalate (sortNames available)

def message : PatternError → String
  | .ambiguousBinding name =>
    "binder \"" ++ name ++ "\" is declared more than once — rename one of the bindings"
  | .inconsistentAlternation expected found branch =>
    "alternation branch " ++ toString branch ++ " binds " ++ nameList found
      ++ ", but branch 0 binds " ++ nameList expected ++ " — every branch must bind the same names"
  | .emptyAlternation => "alternation has no branches"
  | .emptyConjunction => "conjunction has no patterns"
  | .duplicateKey key => "mapping pattern names key \"" ++ key ++ "\" more than once"
  | .depthExceeded depth max =>
    "pattern nesting depth is " ++ toString depth ++ ", but maximum allowed is " ++ toString max
      ++ " — flatten the pattern"
  | .tooManyBranches count max =>
    "pattern node has " ++ toString count ++ " children, but maximum allowed is " ++ toString max
  | .tooManyClauses count max =>
    "match expression has " ++ toString count ++ " clauses, but maximum allowed is "
      ++ toString max
  | .invalidRegex source reason => "invalid regex \"" ++ source ++ "\": " ++ reason
  | .regexTooLong length max =>
    "regex length is " ++ toString length ++ ", but maximum allowed is " ++ toString max
  | .unknownName name table available =>
    "unknown " ++ table.name ++ " \"" ++ name ++ "\"" ++ suggestion table available
  | .invalidConfig reason => "invalid config: " ++ reason

theorem message_unknownName (name : String) (table : TableKind) (available : List String) :
    (unknownName name table available).message
      = "unknown " ++ table.name ++ " \"" ++ name ++ "\"" ++ suggestion table available := rfl

end PatternError

end Destructure
