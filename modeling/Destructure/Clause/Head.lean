import Destructure.Pattern.Basic

set_option autoImplicit false

/-! # Clause heads

The head of a clause has two optional parts: a *test* says which subjects the clause is for, and a
*capture* takes the subject apart. `Head.pattern` folds both into one pattern.

A test that is a bare extractor or a bare expression hands over what it produces: the capture becomes
its inner pattern. Any other test stands beside the capture, and both see the subject. -/

namespace Destructure

/-- The head of a clause. -/
structure Head where
  capture : Option Pattern
  test : Option Pattern

namespace Head

/-- A capture under a test. -/
def join (capture test : Pattern) : Pattern :=
  match test with
  | .extractor source none => .extractor source (some capture)
  | .regex engine none => .regex engine (some capture)
  | test => .conjunction [test, capture]

/-- The one pattern of a head; an empty head accepts anything. -/
def pattern (head : Head) : Pattern :=
  match head.capture, head.test with
  | none, none => .wildcard
  | none, some test => test
  | some capture, none => capture
  | some capture, some test => join capture test

end Head

end Destructure
