import Destructure.Regex.Cursor
import Destructure.Regex.NamedSet
import Destructure.Regex.Primitive

set_option autoImplicit false

/-! # Escapes

What a backslash and the characters after it stand for: a literal, an anchor or a class. -/

namespace Destructure.Regex

open Scan

def isHex (c : Char) : Bool :=
  c.isDigit || ('a' ≤ c && c ≤ 'f') || ('A' ≤ c && c ≤ 'F')

def hexDigitValue (c : Char) : Nat :=
  if c.isDigit then c.toNat - 48 else if 'a' ≤ c then c.toNat - 87 else c.toNat - 55

def hexCode (digits : List Char) : Nat := digits.foldl (fun n c => n * 16 + hexDigitValue c) 0

/-- The character of a code, if there is one. -/
def charOfCode (code : Nat) : Scan Char :=
  if code < 0xD800 ∨ (0xDFFF < code ∧ code < 0x110000) then return Char.ofNat code
  else fail .escapeCode

/-- The next `count` hexadecimal digits. -/
def hexDigits : Nat → Scan (List Char)
  | 0 => return []
  | count + 1 => do
    let c ← need .escapeUnfinished
    if isHex c then
      advance
      return c :: (← hexDigits count)
    else fail .escapeDigit

/-- A code escape, after its letter: digits between braces, or exactly `count` digits. -/
def codeEscape (count : Nat) : Scan Primitive := do
  advance
  let c ← need .escapeUnfinished
  if c == '\x7b' then
    advance
    let digits ← takeAll isHex advance
    let close ← need .escapeUnfinished
    if close != '\x7d' then fail .escapeDigit
    advance
    if digits.isEmpty then fail .escapeEmpty
    return .literal (← charOfCode (hexCode digits)) false
  else
    let digits ← hexDigits count
    return .literal (← charOfCode (hexCode digits)) (count == 2)

/-- The set of a property written between braces: a name, or a property and its value. Whether the
value is to differ is the second part of the answer. -/
def namedProperty (name : List Char) : Scan (CharSet × Bool) := do
  let text := String.ofList name
  let found : Option (CharSet × Bool) :=
    match text.splitOn "!=" with
    | property :: value :: more =>
      (CharSet.valued? property ("!=".intercalate (value :: more))).map (·, true)
    | _ =>
      let mark := if name.contains ':' then ":" else "="
      match text.splitOn mark with
      | property :: value :: more =>
        (CharSet.valued? property (mark.intercalate (value :: more))).map (·, false)
      | _ => (CharSet.named? text).map (·, false)
  match found with
  | some result => return result
  | none => fail .propertyUnknown

/-- A property escape, after its backslash. -/
def propertyEscape : Scan Primitive := do
  let negated := (← need .escapeUnfinished) == 'P'
  advance
  let c ← need .escapeUnfinished
  if c == '\x7b' then
    advance
    let name ← takeAll (· != '\x7d') advance
    let _ ← need .escapeUnfinished
    bump
    let (chars, differs) ← namedProperty name
    return .property chars (negated != differs)
  else if c == '\\' then fail .propertyUnknown
  else
    bump
    let (chars, _) ← namedProperty [c]
    return .property chars negated

/-- Characters with a meaning of their own, which a backslash takes away. -/
def isMeta (c : Char) : Bool :=
  ['\\', '.', '+', '*', '?', '(', ')', '|', '[', ']', '\x7b', '\x7d', '^', '$', '#', '&', '-',
    '~'].contains c

/-- Characters that may carry a backslash without need: ASCII other than letters, digits and the
angle brackets. -/
def isSuperfluous (c : Char) : Bool :=
  c.toNat < 0x80 && !c.isAlphanum && c != '<' && c != '>'

/-- The rest of a word boundary that names which one, after its opening brace; `none` when it is a
counted repetition. -/
def boundaryName? : Scan (Option Anchor) := do
  let start ← get
  let isNameChar (c : Char) : Bool := c.isAlpha || c == '-'
  advance
  let c ← need .wordBoundaryUnclosed
  if !isNameChar c then
    set start
    return none
  let name ← takeAll isNameChar advance
  let close ← need .wordBoundaryUnclosed
  if close != '\x7d' then fail .wordBoundaryUnclosed
  bump
  match String.ofList name with
  | "start" => return some .wordStart
  | "end" => return some .wordEnd
  | "start-half" => return some .wordStartHalf
  | "end-half" => return some .wordEndHalf
  | _ => fail .wordBoundaryUnknown

/-- An escape; its backslash stands next. -/
def escape : Scan Primitive := do
  bump
  let c ← need .escapeUnfinished
  if c.isDigit then fail .backReference
  match c with
  | 'x' => codeEscape 2
  | 'u' => codeEscape 4
  | 'U' => codeEscape 8
  | 'p' | 'P' => propertyEscape
  | _ =>
    bump
    if isMeta c || isSuperfluous c then return .literal c false
    match c with
    | 'd' => return .letter .digit false
    | 'D' => return .letter .digit true
    | 's' => return .letter .space false
    | 'S' => return .letter .space true
    | 'w' => return .letter .word false
    | 'W' => return .letter .word true
    | 'a' => return .literal '\x07' false
    | 'f' => return .literal '\x0c' false
    | 't' => return .literal '\t' false
    | 'n' => return .literal '\n' false
    | 'r' => return .literal '\r' false
    | 'v' => return .literal '\x0b' false
    | 'A' => return .anchor .textStart
    | 'z' => return .anchor .textEnd
    | 'b' =>
      if (← peek?) == some '\x7b' then
        match ← boundaryName? with
        | some anchor => return .anchor anchor
        | none => return .anchor .wordBoundary
      else return .anchor .wordBoundary
    | 'B' => return .anchor .notWordBoundary
    | '<' => return .anchor .wordStart
    | '>' => return .anchor .wordEnd
    | _ => fail .escapeUnknown

/-- One primitive. -/
def readPrimitive : Scan Primitive := do
  let c ← need .escapeUnfinished
  if c == '\\' then escape
  else
    bump
    match c with
    | '.' => return .dot
    | '^' => return .anchor .caret
    | '$' => return .anchor .dollar
    | c => return .literal c false

end Destructure.Regex
