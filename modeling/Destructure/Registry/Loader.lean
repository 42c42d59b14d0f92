import Destructure.Clause.Basic
import Destructure.Config.Basic
import Destructure.Pattern.Expression
import Destructure.Registry.Basic
import Destructure.Value.Plain

set_option autoImplicit false

/-! # Loading configurations

Loading resolves the names of a configuration in a registry, has its expressions compiled by a library,
and builds what the configuration describes, node for node. At every node the level is checked first,
then the number of children, then the names, settings and expressions of the node itself, and then the
children from left to right; the first defect is the result. -/

namespace Destructure.Registry

variable (library : Regex.Library)

/-! ## Patterns -/

/-- The extractor that a configuration refers to. -/
def loadExtractor (r : Registry) (source : ExtractorConfig) : Except PatternError Extractor := do
  let factory ← resolve .extractor r.extractors source.typeUrl
  factory source.config

mutual

/-- The pattern of a configuration whose root is at some level. -/
def loadPatternAt (r : Registry) (config : PatternConfig) (level : Nat) :
    Except PatternError Pattern := do
  checkLevel level
  match config with
  | .literal value => return .literal (Value.ofJson value)
  | .wildcard => return .wildcard
  | .bind name => return .binder name
  | .sequence elements rest => do
    checkWidth elements.length
    let elements ← loadElements r elements (level + 1)
    return .sequence elements rest
  | .mapping fields rest => do
    checkWidth fields.length
    let fields ← loadFields r fields (level + 1)
    return .mapping fields rest
  | .alternation branches => do
    checkWidth branches.length
    let branches ← loadPatterns r branches (level + 1)
    return .alternation branches
  | .conjunction members => do
    checkWidth members.length
    let members ← loadPatterns r members (level + 1)
    return .conjunction members
  | .predicate name => do
    let test ← resolve .predicate r.predicates name
    return .predicate test
  | .extractor source inner => do
    let source ← r.loadExtractor source
    let inner ← loadInner r inner (level + 1)
    return .extractor source inner
  | .regex expression inner => do
    let engine ← compileExpression library expression
    let inner ← loadInner r inner (level + 1)
    return .regex engine inner
  | .constant name => do
    let value ← resolve .constant r.constants name
    return .literal value

def loadPatterns (r : Registry) (configs : List PatternConfig) (level : Nat) :
    Except PatternError (List Pattern) :=
  match configs with
  | [] => .ok []
  | config :: rest => do
    let pattern ← loadPatternAt r config level
    let patterns ← loadPatterns r rest level
    return pattern :: patterns

def loadElements (r : Registry) (configs : List (Option PatternConfig)) (level : Nat) :
    Except PatternError (List (Option Pattern)) :=
  match configs with
  | [] => .ok []
  | none :: rest => do
    let elements ← loadElements r rest level
    return none :: elements
  | some config :: rest => do
    let pattern ← loadPatternAt r config level
    let elements ← loadElements r rest level
    return some pattern :: elements

def loadFields (r : Registry) (configs : List (String × PatternConfig)) (level : Nat) :
    Except PatternError (List (String × Pattern)) :=
  match configs with
  | [] => .ok []
  | (key, config) :: rest => do
    let pattern ← loadPatternAt r config level
    let fields ← loadFields r rest level
    return (key, pattern) :: fields

def loadInner (r : Registry) (config : Option PatternConfig) (level : Nat) :
    Except PatternError (Option Pattern) :=
  match config with
  | none => .ok none
  | some config => do
    let pattern ← loadPatternAt r config level
    return some pattern

end

/-- The pattern of a configuration. -/
def loadPattern (r : Registry) (config : PatternConfig) : Except PatternError Pattern :=
  r.loadPatternAt library config 1

/-! ## Guards -/

mutual

/-- The guard of a configuration whose root is at some level. -/
def loadGuardAt (r : Registry) (config : GuardConfig) (level : Nat) :
    Except PatternError Guard := do
  checkLevel level
  match config with
  | .compare binding op value => return .compare binding op (Value.ofJson value)
  | .all members => do
    checkWidth members.length
    let members ← loadGuards r members (level + 1)
    return .all members
  | .any members => do
    checkWidth members.length
    let members ← loadGuards r members (level + 1)
    return .any members
  | .not inner => do
    let inner ← loadGuardAt r inner (level + 1)
    return .not inner
  | .bound name => return .bound name
  | .named name => resolve .guard r.guards name

def loadGuards (r : Registry) (configs : List GuardConfig) (level : Nat) :
    Except PatternError (List Guard) :=
  match configs with
  | [] => .ok []
  | config :: rest => do
    let guard ← loadGuardAt r config level
    let guards ← loadGuards r rest level
    return guard :: guards

end

/-- The guard of a configuration. -/
def loadGuard (r : Registry) (config : GuardConfig) : Except PatternError Guard :=
  r.loadGuardAt config 1

/-! ## Clauses and match expressions -/

variable {α : Type}

/-- Load something that may be absent. -/
def loadOptional {β γ : Type} (load : β → Except PatternError γ) :
    Option β → Except PatternError (Option γ)
  | none => .ok none
  | some config => some <$> load config

/-- The clause of a configuration: first its head, which is compiled, and then its guard. -/
def loadClause (r : Registry) (config : ClauseConfig α) : Except PatternError (Clause α) := do
  let capture ← loadOptional (r.loadPattern library) config.capture
  let test ← loadOptional (r.loadPattern library) config.pattern
  let clause ← Clause.ofHead ⟨capture, test⟩ config.body
  let guard ← loadOptional r.loadGuard config.guard
  return { clause with guard }

def loadClauses (r : Registry) : List (ClauseConfig α) → Except PatternError (List (Clause α))
  | [] => .ok []
  | config :: rest => do
    let clause ← r.loadClause library config
    let clauses ← loadClauses r rest
    return clause :: clauses

/-- The match expression of a configuration. -/
def loadMatch (r : Registry) (config : MatchConfig α) : Except PatternError (MatchExpr α) := do
  checkClauseCount config.clauses.length
  let clauses ← r.loadClauses library config.clauses
  return ⟨clauses, config.default⟩

end Destructure.Registry
