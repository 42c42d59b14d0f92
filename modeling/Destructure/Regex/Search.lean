import Destructure.Regex.Program

set_option autoImplicit false

/-! # Searching a text

The search follows a program from one starting position after the other, depth first and the
preferred branch first. An instruction that was tried at a position without success is not tried
there again, whatever the way to it, so a search takes no more steps than there are instructions
times positions; that product, doubled for the forks, is its fuel. -/

namespace Destructure.Regex

/-- The text of a search. -/
abbrev Haystack := Array Char

namespace Look

def isAsciiWord (c : Char) : Bool := c.isAlphanum || c == '_'

/-- Whether the character at an index is part of a word. -/
def wordAt (wide : Bool) (text : Haystack) (index : Nat) : Bool :=
  match text[index]? with
  | some c => if wide then Text.Property.isWord c else isAsciiWord c
  | none => false

/-- Whether the character before a position is part of a word. -/
def wordBefore (wide : Bool) (text : Haystack) (position : Nat) : Bool :=
  position != 0 && wordAt wide text (position - 1)

/-- The character before a position. -/
def before? (text : Haystack) (position : Nat) : Option Char :=
  if position = 0 then none else text[position - 1]?

/-- Whether a condition holds at a position. -/
def holds (text : Haystack) (position : Nat) : Look → Bool
  | .textStart => position == 0
  | .textEnd => position == text.size
  | .lineStart => position == 0 || before? text position == some '\n'
  | .lineEnd => position == text.size || text[position]? == some '\n'
  | .returnLineStart =>
    position == 0 || before? text position == some '\n'
      || (before? text position == some '\r' && text[position]? != some '\n')
  | .returnLineEnd =>
    position == text.size || text[position]? == some '\r'
      || (text[position]? == some '\n' && before? text position != some '\r')
  | .wordBoundary wide => wordBefore wide text position != wordAt wide text position
  | .notWordBoundary wide => wordBefore wide text position == wordAt wide text position
  | .wordStart wide => !wordBefore wide text position && wordAt wide text position
  | .wordEnd wide => wordBefore wide text position && !wordAt wide text position
  | .wordStartHalf wide => !wordBefore wide text position
  | .wordEndHalf wide => !wordAt wide text position

end Look

/-- The remembered positions, by slot. -/
abbrev Slots := Array (Option Nat)

/-- A place to go on from. -/
structure Thread where
  instruction : Nat
  position : Nat
  slots : Slots

/-- Where to go from a thread, the preferred way first. -/
def Thread.step (text : Haystack) (thread : Thread) : Instruction → List Thread
  | .accept => []
  | .set chars next =>
    match text[thread.position]? with
    | some c =>
      if chars.contains c then [⟨next, thread.position + 1, thread.slots⟩] else []
    | none => []
  | .look condition next =>
    if condition.holds text thread.position then [{ thread with instruction := next }] else []
  | .save slot next =>
    [⟨next, thread.position, thread.slots.setIfInBounds slot (some thread.position)⟩]
  | .fork first second =>
    [{ thread with instruction := first }, { thread with instruction := second }]

/-- The outcome of following threads: the end and slots of a match, or none; and which instructions
were tried where. -/
structure Followed where
  found : Option (Nat × Slots)
  tried : Array Bool
  fuel : Nat

/-- Follow the threads, the first one to its end before the others. -/
def follow (program : Program) (text : Haystack) : Nat → List Thread → Array Bool → Followed
  | 0, _, tried => ⟨none, tried, 0⟩
  | fuel + 1, [], tried => ⟨none, tried, fuel + 1⟩
  | fuel + 1, thread :: rest, tried =>
    let cell := thread.position * program.size + thread.instruction
    if tried.getD cell true then follow program text fuel rest tried
    else
      match program[thread.instruction]? with
      | some .accept => ⟨some (thread.position, thread.slots), tried, fuel⟩
      | some instruction =>
        follow program text fuel (thread.step text instruction ++ rest)
          (tried.setIfInBounds cell true)
      | none => follow program text fuel rest tried

/-- Try the starting positions `start`, `start + 1`, … -/
def searchFrom (program : Program) (entry slotCount : Nat) (text : Haystack) :
    Nat → Nat → Nat → Array Bool → Option (Nat × Nat × Slots)
  | 0, _, _, _ => none
  | count + 1, start, fuel, tried =>
    let thread : Thread := ⟨entry, start, Array.replicate slotCount none⟩
    let outcome := follow program text fuel [thread] tried
    match outcome.found with
    | some (stop, slots) => some (start, stop, slots)
    | none => searchFrom program entry slotCount text count (start + 1) outcome.fuel outcome.tried

/-- The leftmost preferred match: where it starts and ends, and the slots of its groups. -/
def search (program : Program) (entry slotCount : Nat) (text : Haystack) :
    Option (Nat × Nat × Slots) :=
  let positions := text.size + 1
  let cells := program.size * positions
  searchFrom program entry slotCount text positions 0 (3 * cells + 2 * positions + 1)
    (Array.replicate cells false)

end Destructure.Regex
