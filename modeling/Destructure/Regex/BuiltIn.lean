import Destructure.Regex.Library
import Destructure.Regex.Reader
import Destructure.Regex.Search

set_option autoImplicit false

/-! # The built-in library

The library that the program runs with. An expression is read, compiled to instructions, and searched
for with them. -/

namespace Destructure.Regex

/-- The text between two positions. -/
def slice (text : Haystack) (start stop : Nat) : String :=
  String.ofList (text.extract start stop).toList

namespace Span

/-- The group between two positions. -/
def between (text : Haystack) (start stop : Nat) : Span :=
  ⟨(slice text 0 start).utf8ByteSize, slice text start stop⟩

/-- The group of a number, when both of its ends were passed. -/
def ofSlots? (text : Haystack) (slots : Slots) (index : Nat) : Option Span :=
  match slots.getD (2 * index) none, slots.getD (2 * index + 1) none with
  | some start, some stop => some (between text start stop)
  | _, _ => none

end Span

namespace Parsed

/-- The name of every group in order, if it has one. -/
def groupNames (parsed : Parsed) : List (Option String) :=
  (List.range (parsed.expr.groupCount + 1)).map fun index =>
    (parsed.names.find? (·.1 == index)).map (·.2)

/-- The match between two positions, with the other groups in slots. -/
def found (parsed : Parsed) (text : Haystack) (start stop : Nat) (slots : Slots) : Found :=
  let group (index : Nat) : Option Span :=
    if index = 0 then some (.between text start stop) else Span.ofSlots? text slots index
  { group
    groups := (List.range parsed.groupNames.length).map group
    named := fun name => (parsed.names.find? (·.2 == name)).bind fun entry => group entry.1 }

/-- The matcher of an expression that was read from a source. -/
def matcher (parsed : Parsed) (source : String) : Matcher :=
  let (program, entry) := parsed.expr.program
  { source
    names := parsed.groupNames
    find := fun s =>
      let text := s.toList.toArray
      (search program entry (2 * parsed.expr.groupCount + 2) text).map fun (start, stop, slots) =>
        parsed.found text start stop slots }

end Parsed

/-- The built-in library. -/
def builtIn : Library where
  compile source :=
    match readExpr source with
    | .ok parsed => .ok (parsed.matcher source)
    | .error fault => .error (fault.message source)

end Destructure.Regex
