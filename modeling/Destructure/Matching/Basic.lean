import Destructure.Matching.Error
import Destructure.Pattern.Compiled
import Destructure.Run

set_option autoImplicit false

/-! # Matching

One pattern is matched against one subject, top down and left to right. The bindings are collected in
one accumulator: a binder adds to it, and a branch of an alternation that did not match is undone by
cutting the accumulator back to its length before the branch. That is enough because the names a
pattern binds are distinct, so a binder never replaces what was there before. -/

namespace Destructure

/-- The outcome of matching. -/
inductive Outcome where
  | noMatch
  /-- The subject matched, and every binder of the pattern is bound. -/
  | matched (bindings : Bindings)

def Outcome.bindings? : Outcome → Option Bindings
  | .noMatch => none
  | .matched bindings => some bindings

namespace Extraction

/-- The structure a pattern demands, as a kind. -/
def demandedKind (shape : Shape) : Kind :=
  if shape = .sequence then .sequence else .mapping

/-- What a pattern of that shape is matched against: groups of its own kind, or else the value, or
else the groups as a value if the pattern demands no structure of its own. -/
def target (extraction : Extraction) (shape : Shape) : Except ContractFault Value :=
  match extraction.groups, shape, extraction.value with
  | some (.sequence items), .sequence, _ => .ok (.sequence items)
  | some (.mapping entries), .mapping, _ => .ok (.mapping entries)
  | _, _, some value => .ok value
  | some groups, .any, none => .ok groups.toValue
  | some groups, .mixed, none => .ok groups.toValue
  | some groups, shape, none => .error (.otherGroups groups.kind (demandedKind shape))
  | none, _, none => .error .nothingProduced

end Extraction

/-- The outcome of one node: whether it matched, and the accumulator after it. After a node that did
not match the accumulator may hold bindings of its parts that did. -/
abbrev Step := Run MatchError (Bool × Bindings)

/-- The entries of a mapping that no field names. -/
def otherEntries (fields : List (String × Pattern)) (entries : List (String × Value)) :
    List (String × Value) :=
  entries.filter fun entry => !fields.any fun field => field.1 == entry.1

/-- Bind what is left over, if a name is given for it. -/
def bindRest (rest : Option String) (value : Value) (out : Bindings) : Bool × Bindings :=
  match rest with
  | some name => (true, out.bind name value)
  | none => (true, out)

namespace Pattern

/-- Whether that many items can be matched by that many elements: exactly as many, or more if a rest
takes them. -/
def lengthFits (elements : Nat) (rest : Option String) (items : Nat) : Bool :=
  match rest with
  | some _ => elements ≤ items
  | none => items = elements

mutual

/-- Match one node at `site` against a subject, adding to `out`. -/
def attempt (pattern : Pattern) (scope : Scope) (site : Site) (subject : Value)
    (out : Bindings) : Step :=
  match pattern with
  | .literal expected => pure (subject.equals expected, out)
  | .wildcard => pure (true, out)
  | .binder name => pure (true, out.bind name subject)
  | .sequence elements rest =>
    match subject with
    | .sequence items =>
      if lengthFits elements.length rest items.length then do
        let (matched, out) ← attemptElements elements scope site 0 items out
        if matched then
          return bindRest rest (.sequence (items.drop elements.length)) out
        else return (false, out)
      else pure (false, out)
    | _ => pure (false, out)
  | .mapping fields rest =>
    match subject with
    | .mapping entries => do
      let (matched, out) ← attemptFields fields scope site 0 entries out
      if matched then return bindRest rest (.mapping (otherEntries fields entries)) out
      else return (false, out)
    | _ => pure (false, out)
  | .alternation branches => attemptBranches branches scope site 0 subject out.size out
  | .conjunction members => attemptMembers members scope site 0 subject out
  | .predicate test => do
    let verdict ← Run.called ⟨site, .test test subject scope⟩
      ((test.call subject scope).mapError (MatchError.predicateEvaluation test.name))
    return (verdict.isTruthy, out)
  | .extractor source inner => do
    let extraction ← Run.called ⟨site, .extract source subject⟩ (.ok (source.extract subject))
    attemptInner inner scope site source.name extraction out
  | .regex engine inner => do
    let extraction ← Run.called ⟨site, .search engine subject⟩ (.ok (engine.extract subject))
    attemptInner inner scope site engine.source extraction out

/-- Match elements against items, position by position, from child `index` on. -/
def attemptElements (elements : List (Option Pattern)) (scope : Scope) (site : Site)
    (index : Nat) (items : List Value) (out : Bindings) : Step :=
  match elements, items with
  | none :: elements, _ :: items => attemptElements elements scope site (index + 1) items out
  | some p :: elements, item :: items => do
    let (matched, out) ← p.attempt scope (site ++ [index]) item out
    if matched then attemptElements elements scope site (index + 1) items out
    else return (false, out)
  | _, _ => pure (true, out)

/-- Match fields against the entries of their keys, from child `index` on. -/
def attemptFields (fields : List (String × Pattern)) (scope : Scope) (site : Site)
    (index : Nat) (entries : List (String × Value)) (out : Bindings) : Step :=
  match fields with
  | [] => pure (true, out)
  | (key, p) :: rest =>
    match Entries.find? key entries with
    | none => pure (false, out)
    | some value => do
      let (matched, out) ← p.attempt scope (site ++ [index]) value out
      if matched then attemptFields rest scope site (index + 1) entries out
      else return (false, out)

/-- Try branches from child `index` on; after each one that did not match only the first `mark`
bindings are kept. -/
def attemptBranches (branches : List Pattern) (scope : Scope) (site : Site) (index : Nat)
    (subject : Value) (mark : Nat) (out : Bindings) : Step :=
  match branches with
  | [] => pure (false, out)
  | p :: rest => do
    let (matched, out) ← p.attempt scope (site ++ [index]) subject out
    if matched then return (true, out)
    else attemptBranches rest scope site (index + 1) subject mark (out.truncate mark)

/-- Match all members against the same subject, from child `index` on. -/
def attemptMembers (members : List Pattern) (scope : Scope) (site : Site) (index : Nat)
    (subject : Value) (out : Bindings) : Step :=
  match members with
  | [] => pure (true, out)
  | p :: rest => do
    let (matched, out) ← p.attempt scope (site ++ [index]) subject out
    if matched then attemptMembers rest scope site (index + 1) subject out
    else return (false, out)

/-- Match what an extractor reports, if it accepted its subject, against the inner pattern. -/
def attemptInner (inner : Option Pattern) (scope : Scope) (site : Site) (name : String)
    (extraction : Extraction) (out : Bindings) : Step :=
  if extraction.matched then
    match inner with
    | none => pure (true, out)
    | some p =>
      match extraction.target p.shape with
      | .ok target => p.attempt scope (site ++ [0]) target out
      | .error fault => Run.fail (.extractorContract name fault)
  else pure (false, out)

end

end Pattern

namespace Compiled

/-- Match a subject; predicates see the scope. -/
def matchIn (compiled : Compiled) (subject : Value) (scope : Scope) (site : Site) :
    Run MatchError Outcome := do
  let (matched, out) ← compiled.pattern.attempt scope site subject .empty
  return if matched then .matched out else .noMatch

/-- Match a subject with nothing in scope. -/
def matchValue (compiled : Compiled) (subject : Value) : Run MatchError Outcome :=
  compiled.matchIn subject .root []

end Compiled

end Destructure
