import Destructure.Guard.Basic
import Destructure.Json.Basic

set_option autoImplicit false

/-! # Configurations

A match expression as plain data. A configuration has the structure of what it describes, but refers
to extensions and constants by name; a registry turns it into the real thing. -/

namespace Destructure

/-- A reference to a registered extractor, with its settings. -/
structure ExtractorConfig where
  typeUrl : String
  config : Json

/-- A pattern as data. -/
inductive PatternConfig where
  | literal (value : Json)
  | wildcard
  | bind (name : String)
  | sequence (elements : List (Option PatternConfig)) (rest : Option String)
  | mapping (fields : List (String × PatternConfig)) (rest : Option String)
  | alternation (branches : List PatternConfig)
  | conjunction (members : List PatternConfig)
  | predicate (name : String)
  | extractor (source : ExtractorConfig) (inner : Option PatternConfig)
  | regex (expression : String) (inner : Option PatternConfig)
  | constant (name : String)
deriving Inhabited

/-- A guard as data. -/
inductive GuardConfig where
  | compare (binding : String) (op : CompareOp) (value : Json)
  | all (members : List GuardConfig)
  | any (members : List GuardConfig)
  | not (inner : GuardConfig)
  | bound (name : String)
  | named (name : String)
deriving Inhabited

/-- A clause as data. -/
structure ClauseConfig (α : Type) where
  capture : Option PatternConfig
  pattern : Option PatternConfig
  guard : Option GuardConfig
  body : α

/-- A match expression as data. -/
structure MatchConfig (α : Type) where
  clauses : List (ClauseConfig α)
  default : Option α

end Destructure
