import Destructure.Regex.Engine

set_option autoImplicit false

/-! # Libraries of regular expressions

Compiling an expression and searching a text are the work of a *library*, and everything that loads
expressions is given one. A library answers in its own terms: it tells of a match group by group, each
with the place where it starts, and separately which groups of an expression have names.
`Matcher.engine` puts these answers together to the captures of an engine. -/

namespace Destructure.Regex

/-- A group that took part in a match. -/
structure Span where
  /-- How many bytes of the text stand before the group. -/
  start : Nat
  text : String

/-- A match, as a library tells of it. -/
structure Found where
  /-- The group of a number; group 0 is the whole match. -/
  group : Nat → Option Span
  /-- Every group in order. -/
  groups : List (Option Span)
  /-- The group of a name. -/
  named : String → Option Span

/-- An expression that a library has compiled. -/
structure Matcher where
  /-- The expression as it was written. -/
  source : String
  /-- The name of every group in order, if it has one. -/
  names : List (Option String)
  /-- The match in a text. -/
  find : String → Option Found

/-- A library of regular expressions. -/
structure Library where
  /-- Compile an expression, or tell why it cannot be compiled. -/
  compile : String → Except String Matcher

namespace Matcher

/-- The captures of a match. -/
def captures (m : Matcher) (found : Found) : Captures :=
  let named := (m.names.filterMap id).map fun name => (name, (found.named name).map (·.text))
  { positional := found.groups.map (·.map (·.text))
    named := Entries.ofList named
    index := ((found.group 0).map (·.start)).getD 0
    namesOnce := Entries.nodup_keys_ofList named }

/-- The engine of a compiled expression. -/
def engine (m : Matcher) : Engine where
  source := m.source
  execute text := (m.find text).map m.captures

end Matcher

end Destructure.Regex
