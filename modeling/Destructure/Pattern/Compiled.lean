import Destructure.Pattern.Basic
import Destructure.Pattern.Error

set_option autoImplicit false

/-! # Compiled patterns

A pattern is checked once, before anything is matched: names bound together are distinct, the
branches of an alternation bind the same names, nothing that must have members is empty, no mapping
names a key twice, and the tree is neither too deep nor too wide. `Compiled` holds a pattern that
passed, with the names it binds and its depth.

The check walks the tree from the root, at level 1, and reports the first defect it meets. -/

namespace Destructure

/-- The deepest level of a node. -/
def maxDepth : Nat := 32

/-- The most children of a node. -/
def maxBranches : Nat := 256

/-- The result of checking a subtree: the names it binds, in order, and its deepest level. -/
structure Analysis where
  binders : List String
  depth : Nat
deriving DecidableEq

namespace Analysis

/-- A node at some level that binds nothing. -/
def leaf (level : Nat) : Analysis := ⟨[], level⟩

/-- Add a name, which must be new. -/
def declare (a : Analysis) (name : String) : Except PatternError Analysis :=
  if name ∈ a.binders then .error (.ambiguousBinding name)
  else .ok ⟨a.binders ++ [name], a.depth⟩

/-- Add names one after the other. -/
def declareAll (a : Analysis) : List String → Except PatternError Analysis
  | [] => .ok a
  | name :: rest => do
    let a ← a.declare name
    a.declareAll rest

/-- Add the name of a rest, if there is one. -/
def declareRest (a : Analysis) : Option String → Except PatternError Analysis
  | none => .ok a
  | some name => a.declare name

/-- Add a part that matches together with what is there: its names must be new. -/
def sibling (a b : Analysis) : Except PatternError Analysis := do
  let merged ← a.declareAll b.binders
  return ⟨merged.binders, max a.depth b.depth⟩

end Analysis

def checkLevel (level : Nat) : Except PatternError Unit :=
  if maxDepth < level then .error (.depthExceeded level maxDepth) else .ok ()

def checkWidth (count : Nat) : Except PatternError Unit :=
  if maxBranches < count then .error (.tooManyBranches count maxBranches) else .ok ()

namespace Pattern

mutual

/-- Check the subtree at some level. -/
def analyze (pattern : Pattern) (level : Nat) : Except PatternError Analysis := do
  checkLevel level
  match pattern with
  | .literal _ => .ok (.leaf level)
  | .wildcard => .ok (.leaf level)
  | .predicate _ => .ok (.leaf level)
  | .binder name => (Analysis.leaf level).declare name
  | .sequence elements rest => do
    checkWidth elements.length
    let a ← analyzeElements elements (level + 1) (.leaf level)
    a.declareRest rest
  | .mapping fields rest => do
    checkWidth fields.length
    let a ← analyzeFields fields (level + 1) [] (.leaf level)
    a.declareRest rest
  | .alternation branches => analyzeAlternation branches level
  | .conjunction members =>
    if members.isEmpty then .error .emptyConjunction
    else do
      checkWidth members.length
      analyzeMembers members (level + 1) (.leaf level)
  | .extractor _ inner => analyzeInner inner (level + 1) (.leaf level)
  | .regex _ inner => analyzeInner inner (level + 1) (.leaf level)

/-- Check the elements of a sequence; holes bind nothing and have no level. -/
def analyzeElements :
    List (Option Pattern) → Nat → Analysis → Except PatternError Analysis
  | [], _, a => .ok a
  | none :: rest, level, a => analyzeElements rest level a
  | some p :: rest, level, a => do
    let b ← p.analyze level
    let a ← a.sibling b
    analyzeElements rest level a

/-- Check the fields of a mapping; `seen` holds the keys so far. -/
def analyzeFields :
    List (String × Pattern) → Nat → List String → Analysis → Except PatternError Analysis
  | [], _, _, a => .ok a
  | (key, p) :: rest, level, seen, a =>
    if key ∈ seen then .error (.duplicateKey key)
    else do
      let b ← p.analyze level
      let a ← a.sibling b
      analyzeFields rest level (key :: seen) a

/-- Check members that match together. -/
def analyzeMembers : List Pattern → Nat → Analysis → Except PatternError Analysis
  | [], _, a => .ok a
  | p :: rest, level, a => do
    let b ← p.analyze level
    let a ← a.sibling b
    analyzeMembers rest level a

/-- Check the branches of an alternation at some level: the first one tells which names the others
must bind. -/
def analyzeAlternation : List Pattern → Nat → Except PatternError Analysis
  | [], _ => .error .emptyAlternation
  | first :: others, level => do
    checkWidth (others.length + 1)
    let a ← first.analyze (level + 1)
    let a ← analyzeBranches others (level + 1) (sortNames a.binders) 1 a
    return ⟨a.binders, max a.depth level⟩

/-- Check the branches from number `index` on against the sorted names of the first one. -/
def analyzeBranches :
    List Pattern → Nat → List String → Nat → Analysis → Except PatternError Analysis
  | [], _, _, _, a => .ok a
  | p :: rest, level, expected, index, a => do
    let b ← p.analyze level
    let found := sortNames b.binders
    if found ≠ expected then .error (.inconsistentAlternation expected found index)
    else analyzeBranches rest level expected (index + 1) ⟨a.binders, max a.depth b.depth⟩

/-- Check what an extractor's output is matched against. -/
def analyzeInner : Option Pattern → Nat → Analysis → Except PatternError Analysis
  | none, _, a => .ok a
  | some p, level, a => do
    let b ← p.analyze level
    a.sibling b

end

end Pattern

/-- A pattern that passed its check, with the names it binds and its depth. -/
structure Compiled where
  pattern : Pattern
  /-- The names that a match binds, in the order of their declaration. -/
  binders : List String
  /-- The depth of the tree; a tree of one node has depth 1. -/
  depth : Nat
  accepted : pattern.analyze 1 = .ok ⟨binders, depth⟩

/-- Check a pattern. -/
def Pattern.compile (pattern : Pattern) : Except PatternError Compiled :=
  match h : pattern.analyze 1 with
  | .ok a => .ok ⟨pattern, a.binders, a.depth, h⟩
  | .error e => .error e

end Destructure
