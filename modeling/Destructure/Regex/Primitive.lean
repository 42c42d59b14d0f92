import Destructure.Regex.Expr
import Destructure.Regex.Fault

set_option autoImplicit false

/-! # Flags and primitives

The smallest parts of a regular expression are primitives: literal characters, the dot, anchors and
named classes. What a primitive matches depends on the flags in force where it stands. -/

namespace Destructure.Regex

/-- The flags in force at some place of an expression. -/
structure Flags where
  caseless : Bool := false
  multiLine : Bool := false
  dotAll : Bool := false
  swapGreed : Bool := false
  unicode : Bool := true
  returns : Bool := false
  /-- Blanks and comments do not count. -/
  spaced : Bool := false

/-- The anchors, as they are written. -/
inductive Anchor where
  | caret
  | dollar
  | textStart
  | textEnd
  | wordBoundary
  | notWordBoundary
  | wordStart
  | wordEnd
  | wordStartHalf
  | wordEndHalf

/-- The classes of one letter. -/
inductive Letter where
  | digit
  | space
  | word

/-- A smallest part of an expression. -/
inductive Primitive where
  /-- A character; `byte` when it was written as a two-digit code. -/
  | literal (c : Char) (byte : Bool)
  | dot
  | anchor (anchor : Anchor)
  | letter (letter : Letter) (negated : Bool)
  | property (chars : CharSet) (negated : Bool)

namespace Flags

/-- Close a set under case, if the flags say so. -/
def fold (flags : Flags) (chars : CharSet) : CharSet :=
  if flags.caseless then (if flags.unicode then .folded chars else .foldedLatin chars) else chars

/-- Close a set under case as the flags say, then negate it. -/
def finish (flags : Flags) (negated : Bool) (chars : CharSet) : CharSet :=
  if negated then .complement (flags.fold chars) else flags.fold chars

/-- A set that may be used: without Unicode, a set must not reach beyond ASCII. -/
def checked (flags : Flags) (chars : CharSet) : Except Fault CharSet :=
  if flags.unicode || chars.isAscii then .ok chars else .error .unicodeNeeded

def look (flags : Flags) : Anchor → Look
  | .caret =>
    if flags.multiLine then (if flags.returns then .returnLineStart else .lineStart) else .textStart
  | .dollar =>
    if flags.multiLine then (if flags.returns then .returnLineEnd else .lineEnd) else .textEnd
  | .textStart => .textStart
  | .textEnd => .textEnd
  | .wordBoundary => .wordBoundary flags.unicode
  | .notWordBoundary => .notWordBoundary flags.unicode
  | .wordStart => .wordStart flags.unicode
  | .wordEnd => .wordEnd flags.unicode
  | .wordStartHalf => .wordStartHalf flags.unicode
  | .wordEndHalf => .wordEndHalf flags.unicode

/-- The set of a one-letter class. -/
def letterSet (flags : Flags) (letter : Letter) (negated : Bool) : Except Fault CharSet :=
  let chars : CharSet :=
    if flags.unicode then
      match letter with
      | .digit => .digit
      | .space => .space
      | .word => .word
    else
      match letter with
      | .digit => .ascii [('0', '9')]
      | .space => .ascii [('\t', '\r'), (' ', ' ')]
      | .word => .ascii [('0', '9'), ('A', 'Z'), ('_', '_'), ('a', 'z')]
  flags.checked (if negated then .complement chars else chars)

/-- The set of a property. -/
def propertySet (flags : Flags) (chars : CharSet) (negated : Bool) : Except Fault CharSet :=
  if flags.unicode then .ok (flags.finish negated chars) else .error .unicodeNeeded

/-- The set of a literal that stands on its own. -/
def literalSet (flags : Flags) (c : Char) (byte : Bool) : Except Fault CharSet :=
  if !flags.unicode && byte && 0x80 ≤ c.toNat then .error .unicodeNeeded
  else .ok (flags.fold (.single c))

/-- The set of the dot. -/
def dotSet (flags : Flags) : Except Fault CharSet :=
  if flags.unicode then
    if flags.dotAll then .ok (.complement .empty)
    else if flags.returns then .ok (.complement (.union (.single '\r') (.single '\n')))
    else .ok (.complement (.single '\n'))
  else .error .unicodeNeeded

/-- What a primitive matches. -/
def primitive (flags : Flags) : Primitive → Except Fault Expr
  | .literal c byte => .set <$> flags.literalSet c byte
  | .dot => .set <$> flags.dotSet
  | .anchor anchor => .ok (.look (flags.look anchor))
  | .letter letter negated => .set <$> flags.letterSet letter negated
  | .property chars negated => .set <$> flags.propertySet chars negated

end Flags

end Destructure.Regex
