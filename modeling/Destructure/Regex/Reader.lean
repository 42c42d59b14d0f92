import Destructure.Regex.ClassReader

set_option autoImplicit false

/-! # Reading regular expressions

The reader walks the text once. Each open group holds what stood before it; alternatives collect
until their group closes. Flags given inside a group are in force until it closes, past its
alternatives too.

`readExpr` also bounds what it accepts: groups, classes and repetitions nest at most `nestLimit`
deep, and the compiled expression must not take more than `sizeLimit` bytes. -/

namespace Destructure.Regex

open Scan

/-- A part of a sequence: an expression, or a change of flags, which matches the empty text and
cannot be repeated. -/
structure Item where
  expr : Expr
  isDirective : Bool
  nest : Nat

/-- What has been read of one group: the current sequence and the finished alternatives, both last
one first. -/
structure Level where
  items : List Item
  branches : List Item

/-- A group that is not closed yet: what stood before it, its capture number, and the flags to go
back to. -/
structure OpenGroup where
  outer : Level
  index : Option Nat
  flags : Flags

/-- The state of the reader. -/
structure Work where
  level : Level
  opened : List OpenGroup
  flags : Flags
  groups : Nat
  names : List (Nat × String)

namespace Level

def empty : Level := ⟨[], []⟩

def push (level : Level) (item : Item) : Level := { level with items := item :: level.items }

/-- One step deeper than the deepest of some items. -/
def deeper (items : List Item) : Nat := (items.map (·.nest)).foldl max 0 + 1

/-- The current sequence as one item. -/
def sequence (level : Level) : Item :=
  match level.items with
  | [] => ⟨.empty, false, 0⟩
  | [item] => item
  | items => ⟨Expr.seqOf (items.reverse.map (·.expr)), false, deeper items⟩

/-- End the current sequence and start another alternative. -/
def branch (level : Level) : Level := ⟨[], level.sequence :: level.branches⟩

/-- The whole level as one item. -/
def finish (level : Level) : Item :=
  match level.branches with
  | [] => level.sequence
  | branches =>
    let all := level.sequence :: branches
    ⟨Expr.eitherOf (all.reverse.map (·.expr)), false, deeper all⟩

end Level

/-! ## Groups -/

/-- Whether a character may stand in a group name. -/
def isNameChar (first : Bool) (c : Char) : Bool :=
  if first then c == '_' || Text.Property.alphabetic.contains c
  else c == '_' || c == '.' || c == '[' || c == ']' || Text.Property.isAlphanumeric c

/-- A group name, up to its closing bracket. -/
def groupName : Scan String := do
  let name ← takeAll (· != '>') bump
  let valid := match name with
    | [] => true
    | c :: rest => isNameChar true c && rest.all (isNameChar false)
  if !valid then fail .groupNameInvalid
  let _ ← need .groupNameUnclosed
  bump
  if name.isEmpty then fail .groupNameEmpty
  return String.ofList name

/-- The flags of a directive, each with the state it sets, up to `:` or `)`. -/
def flagItems : Nat → Bool → List (Char × Bool) → Scan (List (Char × Bool) × Bool)
  | 0, _, _ => fail .flagUnfinished
  | fuel + 1, negating, found => do
    let c ← need .flagUnfinished
    if c == ':' || c == ')' then return (found, negating)
    if c == '-' then
      if negating then fail .flagNegatedTwice
      bump
      if (← peek?) == some ':' || (← peek?) == some ')' then fail .flagDangling
      flagItems fuel true found
    else if ['i', 'm', 's', 'U', 'u', 'R', 'x'].contains c then
      if found.any (·.1 == c) then fail .flagRepeated
      bump
      flagItems fuel negating ((c, !negating) :: found)
    else fail .flagUnknown

/-- Set one flag. -/
def Flags.setFlag (flags : Flags) (flag : Char) (on : Bool) : Flags :=
  match flag with
  | 'i' => { flags with caseless := on }
  | 'm' => { flags with multiLine := on }
  | 's' => { flags with dotAll := on }
  | 'U' => { flags with swapGreed := on }
  | 'u' => { flags with unicode := on }
  | 'R' => { flags with returns := on }
  | _ => { flags with spaced := on }

def useFlags (flags : Flags) : Scan Unit :=
  modify fun cursor => { cursor with spaced := flags.spaced }

/-- An opening parenthesis and what belongs to it. -/
def openGroup (work : Work) : Scan Work := do
  bump
  skip
  let lookAround ← do
    let start ← get
    let found := (← accept "?=") || (← accept "?!") || (← accept "?<=") || (← accept "?<!")
    set start
    pure found
  if lookAround then fail .lookAround
  let enter (index : Option Nat) (flags : Flags) (groups : Nat) (names : List (Nat × String)) :
      Work :=
    ⟨.empty, ⟨work.level, index, work.flags⟩ :: work.opened, flags, groups, names⟩
  let named ← do
    if ← accept "?P<" then pure true else accept "?<"
  if named then
    let name ← groupName
    if work.names.any (·.2 == name) then fail .groupNameRepeated
    let index := work.groups + 1
    return enter (some index) work.flags index (work.names ++ [(index, name)])
  else if ← accept "?" then
    let (found, negating) ← flagItems ((← remaining) + 1) false []
    let flags := found.reverse.foldl (fun flags (flag, on) => flags.setFlag flag on) work.flags
    let close ← need .flagUnfinished
    bump
    useFlags flags
    if close == ')' then
      if found.isEmpty && !negating then fail .repetitionMissing
      return { work with flags := flags, level := work.level.push ⟨.empty, true, 0⟩ }
    else return enter none flags work.groups work.names
  else
    let index := work.groups + 1
    return enter (some index) work.flags index work.names

/-- A closing parenthesis. -/
def closeGroup (work : Work) : Scan Work := do
  match work.opened with
  | [] => fail .groupUnopened
  | group :: opened =>
    useFlags group.flags
    bump
    let inner := work.level.finish
    let expr := match group.index with
      | some index => Expr.group index inner.expr
      | none => inner.expr
    return { work with
      level := group.outer.push ⟨expr, false, inner.nest + 1⟩
      opened := opened
      flags := group.flags }

/-! ## Repetitions -/

/-- The last item of the sequence, which a repetition applies to, and the sequence before it. -/
def repeatable (level : Level) : Scan (Item × Level) :=
  match level.items with
  | item :: rest =>
    if item.isDirective then fail .repetitionMissing
    else return (item, { level with items := rest })
  | [] => fail .repetitionMissing

def repetition (work : Work) (item : Item) (before : Level) (min : Nat) (max : Option Nat)
    (lazy : Bool) : Work :=
  let greedy := lazy == work.flags.swapGreed
  { work with level := before.push ⟨item.expr.times min max greedy, false, item.nest + 1⟩ }

/-- One of `?`, `*` and `+`. -/
def plainRepetition (work : Work) (min : Nat) (max : Option Nat) : Scan Work := do
  let (item, before) ← repeatable work.level
  bump
  let lazy ← accept "?"
  return repetition work item before min max lazy

/-- A number of a counted repetition, blanks around it; `none` when there is no digit. -/
def count? : Scan (Option Nat) := do
  let _ ← takeAll Text.Property.isSpace bump
  let digits ← takeAll Char.isDigit advance
  let _ ← takeAll Text.Property.isSpace advance
  if digits.isEmpty then return none
  let n := digits.foldl (fun n c => n * 10 + (c.toNat - 48)) 0
  if n < Nat.pow 2 32 then return some n else fail .repetitionTooLarge

/-- A repetition with its bounds between braces. -/
def countedRepetition (work : Work) : Scan Work := do
  let (item, before) ← repeatable work.level
  advance
  let _ ← need .repetitionUnclosed
  let low ← count?
  let c ← need .repetitionUnclosed
  let (min, max) ← do
    if c == ',' then
      advance
      let c ← need .repetitionUnclosed
      match low with
      | none => fail .repetitionBound
      | some low =>
        if c == '\x7d' then pure (low, none)
        else
          match ← count? with
          | none => fail .repetitionBound
          | some high => pure (low, some high)
    else
      match low with
      | none => fail .repetitionBound
      | some low => pure (low, some low)
  let close ← need .repetitionUnclosed
  if close != '\x7d' then fail .repetitionUnclosed
  advance
  let lazy ← accept "?"
  if max.any (· < min) then fail .repetitionOrder
  return repetition work item before min max lazy

/-! ## The whole expression -/

/-- Read to the end of the text. -/
def readLoop : Nat → Work → Scan Work
  | 0, work => return work
  | fuel + 1, work => do
    skip
    match ← peek? with
    | none => return work
    | some '(' => readLoop fuel (← openGroup work)
    | some ')' => readLoop fuel (← closeGroup work)
    | some '|' =>
      bump
      readLoop fuel { work with level := work.level.branch }
    | some '[' =>
      let chars ← readClass work.flags
      readLoop fuel { work with level := work.level.push ⟨.set chars, false, 1⟩ }
    | some '?' => readLoop fuel (← plainRepetition work 0 (some 1))
    | some '*' => readLoop fuel (← plainRepetition work 0 none)
    | some '+' => readLoop fuel (← plainRepetition work 1 none)
    | some '\x7b' => readLoop fuel (← countedRepetition work)
    | some _ =>
      let expr ← work.flags.primitive (← readPrimitive)
      readLoop fuel { work with level := work.level.push ⟨expr, false, 0⟩ }

/-- An expression with the names of its groups, by number. -/
structure Parsed where
  expr : Expr
  names : List (Nat × String)

/-- Read a regular expression. -/
def readExpr (source : String) : Except Fault Parsed := do
  let letters := source.toList
  let start : Work := ⟨.empty, [], {}, 0, []⟩
  let (work, _) ← (readLoop (letters.length + 1) start).run ⟨letters, false⟩
  if !work.opened.isEmpty then throw .groupUnclosed
  let whole := work.level.finish
  if nestLimit < whole.nest then throw .tooDeep
  if sizeLimit < whole.expr.weight then throw .tooLarge
  return ⟨whole.expr, work.names.filter fun (index, _) => whole.expr.hasGroup index⟩

end Destructure.Regex
