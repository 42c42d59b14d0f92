import Destructure.Regex.Fault
import Destructure.Text.Property

set_option autoImplicit false

/-! # A cursor over the text of an expression

The reader's place in the text. Where the flags say so, blanks and comments (`#` to the end of its
line) do not count, and `advance` passes over them. -/

namespace Destructure.Regex

/-- The text that is left, and whether blanks and comments count. -/
structure Cursor where
  rest : List Char
  spaced : Bool

/-- A step of reading. -/
abbrev Scan (α : Type) : Type := StateT Cursor (Except Fault) α

/-- Drop blanks and comments; `inComment` when a comment is open. -/
def dropIgnored : Bool → List Char → List Char
  | _, [] => []
  | true, c :: rest => dropIgnored (c != '\n') rest
  | false, c :: rest =>
    if Text.Property.isSpace c then dropIgnored false rest
    else if c == '#' then dropIgnored true rest
    else c :: rest

namespace Scan

def fail {α : Type} (fault : Fault) : Scan α := throw fault

/-- The next character. -/
def peek? : Scan (Option Char) := do return (← get).rest.head?

def atEnd : Scan Bool := do return (← get).rest.isEmpty

/-- The characters that are left. -/
def remaining : Scan Nat := do return (← get).rest.length

/-- Pass over one character. -/
def bump : Scan Unit := modify fun cursor => { cursor with rest := cursor.rest.tail }

/-- Pass over what does not count. -/
def skip : Scan Unit := modify fun cursor =>
  if cursor.spaced then { cursor with rest := dropIgnored false cursor.rest } else cursor

/-- Pass over one character and what does not count after it. -/
def advance : Scan Unit := do
  bump
  skip

/-- Pass over `text`, if it stands here. -/
def accept (text : String) : Scan Bool := do
  let cursor ← get
  let letters := text.toList
  if cursor.rest.take letters.length = letters then
    set { cursor with rest := cursor.rest.drop letters.length }
    return true
  else return false

/-- The next character; a fault at the end. -/
def need (fault : Fault) : Scan Char := do
  match ← peek? with
  | some c => return c
  | none => fail fault

/-- The character after the next one and after what does not count. -/
def peekNext? : Scan (Option Char) := do
  let cursor ← get
  let after := cursor.rest.tail
  return (if cursor.spaced then dropIgnored false after else after).head?

/-- The character right after the next one. -/
def peekSecond? : Scan (Option Char) := do return (← get).rest.tail.head?

/-- Characters with a property, at most `fuel` of them; `step` passes over each. -/
def collect (holds : Char → Bool) (step : Scan Unit) : Nat → Scan (List Char)
  | 0 => return []
  | fuel + 1 => do
    match ← peek? with
    | some c =>
      if holds c then
        step
        return c :: (← collect holds step fuel)
      else return []
    | none => return []

/-- All the characters with a property that stand here. -/
def takeAll (holds : Char → Bool) (step : Scan Unit) : Scan (List Char) := do
  collect holds step (← remaining)

end Scan

end Destructure.Regex
