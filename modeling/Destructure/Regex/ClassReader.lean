import Destructure.Regex.Escape

set_option autoImplicit false

/-! # Bracketed classes

A class is a union of items (characters, ranges, named sets, classes in their own brackets), and the
operators `&&`, `--` and `~~` combine the unions to their left and right, in the order in which they
stand. Open brackets and operators wait on a stack. -/

namespace Destructure.Regex

open Scan

inductive ClassOperator where
  | inter
  | minus
  | either

/-- What waits for the rest of a class: the items before an inner bracket, or the left side of an
operator. -/
inductive ClassFrame where
  | bracket (outer : List CharSet) (negated : Bool)
  | operator (operator : ClassOperator) (left : CharSet)

def ClassOperator.apply (operator : ClassOperator) (left right : CharSet) : CharSet :=
  match operator with
  | .inter => .inter left right
  | .minus => .minus left right
  | .either => .either left right

/-- An item of a class on its own. -/
def itemSet (flags : Flags) : Primitive → Except Fault CharSet
  | .literal c byte =>
    if !flags.unicode && 0x80 ≤ c.toNat then
      if byte then .ok (.range 0x80 0x80) else .error .unicodeNeeded
    else .ok (.single c)
  | .letter letter negated => flags.letterSet letter negated
  | .property chars negated => flags.propertySet chars negated
  | .dot => .error .classItem
  | .anchor _ => .error .classItem

/-- The character of an item that is the end of a range. -/
def rangeEnd : Primitive → Except Fault Char
  | .literal c _ => .ok c
  | _ => .error .classRangeEnd

/-- One item of a class: a literal, dot and anchors having no meaning of their own. -/
def classPrimitive : Scan Primitive := do
  let c ← need .classUnclosed
  if c == '\\' then escape
  else
    bump
    return .literal c false

/-- A range or a single item. -/
def classRange (flags : Flags) : Scan CharSet := do
  let first ← classPrimitive
  skip
  let c ← need .classUnclosed
  let next ← peekNext?
  if c != '-' || next == some ']' || next == some '-' then itemSet flags first
  else
    advance
    if ← atEnd then fail .classUnclosed
    let second ← classPrimitive
    let low ← rangeEnd first
    let high ← rangeEnd second
    if high < low then fail .classRangeOrder
    let _ ← itemSet flags first
    let _ ← itemSet flags second
    return .range low.toNat high.toNat

/-- A set between `[:` and `:]`; `none`, and nothing passed over, when it is not one. -/
def posixClass? (flags : Flags) : Scan (Option CharSet) := do
  let start ← get
  if !(← accept "[:") then return none
  let negated ← accept "^"
  let name ← takeAll (· != ':') bump
  if ← accept ":]" then
    match CharSet.posix? (String.ofList name) with
    | some chars => return some (← flags.checked (flags.finish negated chars))
    | none =>
      set start
      return none
  else
    set start
    return none

/-- The hyphens at the start of a class, literal all of them. -/
def leadingHyphens : Nat → List CharSet → Scan (List CharSet)
  | 0, items => return items
  | fuel + 1, items => do
    if (← peek?) == some '-' then
      advance
      if ← atEnd then fail .classUnclosed
      leadingHyphens fuel (.single '-' :: items)
    else return items

/-- An opening bracket: whether the class is negated, and its first items. -/
def openBracket : Scan (Bool × List CharSet) := do
  advance
  let c ← need .classUnclosed
  let negated := c == '^'
  if negated then
    advance
    if ← atEnd then fail .classUnclosed
  let items ← leadingHyphens (← remaining) []
  if items.isEmpty && (← peek?) == some ']' then
    advance
    if ← atEnd then fail .classUnclosed
    return (negated, [.single ']'])
  return (negated, items)

/-- Combine the items so far with an operator that waits for its right side. -/
def closeOperator (flags : Flags) (items : List CharSet) (stack : List ClassFrame) :
    CharSet × List ClassFrame :=
  let right := CharSet.unionOf items.reverse
  match stack with
  | .operator operator left :: rest => (operator.apply (flags.fold left) (flags.fold right), rest)
  | _ => (right, stack)

/-- Read a class to its last bracket; `items` holds the innermost union, last item first. -/
def classLoop (flags : Flags) : Nat → List CharSet → List ClassFrame → Scan CharSet
  | 0, _, _ => fail .classUnclosed
  | fuel + 1, items, stack => do
    skip
    let c ← need .classUnclosed
    let second ← peekSecond?
    match c with
    | '[' =>
      let named ← if stack.isEmpty then pure none else posixClass? flags
      match named with
      | some chars => classLoop flags fuel (chars :: items) stack
      | none =>
        if nestLimit ≤ stack.length then fail .tooDeep
        let (negated, first) ← openBracket
        classLoop flags fuel first (.bracket items negated :: stack)
    | ']' =>
      let (chars, frames) := closeOperator flags items stack
      match frames with
      | .bracket outer negated :: rest =>
        bump
        let closed := flags.finish negated chars
        if rest.isEmpty then return closed else classLoop flags fuel (closed :: outer) rest
      | _ => fail .classUnclosed
    | c =>
      let operator : Option ClassOperator :=
        if second == some c then
          match c with
          | '&' => some .inter
          | '-' => some .minus
          | '~' => some .either
          | _ => none
        else none
      match operator with
      | some operator =>
        bump
        bump
        let (left, frames) := closeOperator flags items stack
        classLoop flags fuel [] (.operator operator left :: frames)
      | none =>
        let chars ← classRange flags
        classLoop flags fuel (chars :: items) stack

/-- A class; its opening bracket stands next. -/
def readClass (flags : Flags) : Scan CharSet := do
  let chars ← classLoop flags ((← remaining) + 1) [] []
  flags.checked chars

end Destructure.Regex
