import Destructure.Bindings

set_option autoImplicit false

/-! # Extensions

Patterns reach beyond plain data through extensions: an *extractor* decides whether a subject is one
of its own and what it decomposes into, a *predicate* tests a subject within a scope. Both are
functions with a name, a description for debug output, and the lines they add to the log of a run
when they are called. -/

namespace Destructure

/-- What an extractor takes a subject apart into. -/
inductive Groups where
  /-- Positional groups, for sequence patterns. -/
  | sequence (items : List Value)
  /-- Named groups, for mapping patterns. -/
  | mapping (entries : List (String × Value))

namespace Groups

/-- The groups as a value. -/
def toValue : Groups → Value
  | .sequence items => .sequence items
  | .mapping entries => .mapping entries

def kind (groups : Groups) : Kind := groups.toValue.kind

end Groups

/-- What an extractor reports about one subject. A value and groups may come with a match, one of
them, both or neither. -/
structure Extraction where
  matched : Bool
  value : Option Value
  groups : Option Groups

namespace Extraction

/-- The subject is not accepted. -/
def rejected : Extraction := ⟨false, none, none⟩

/-- The subject is accepted and nothing is produced. -/
def accepted : Extraction := ⟨true, none, none⟩

/-- The subject is accepted and produces a value. -/
def produced (value : Value) : Extraction := ⟨true, some value, none⟩

end Extraction

/-- A named way to accept subjects and take them apart. -/
structure Extractor where
  name : String
  description : String
  extract : Value → Extraction
  log : Value → List String := fun _ => []

/-- The failure of a predicate's function. -/
structure CallError where
  message : String
deriving DecidableEq

/-- A named test of a subject; only the truthiness of its result counts. -/
structure Predicate where
  name : String
  call : Value → Scope → Except CallError Value
  log : Value → Scope → List String := fun _ _ => []

namespace Extractor

/-- Accepts the subjects of one kind and produces the subject itself. -/
def ofKind (kind : Kind) : Extractor where
  name := kind.title
  description := "KindExtractor \x7b kind: " ++ kind.title ++ " \x7d"
  extract subject := if subject.kind = kind then .produced subject else .rejected

end Extractor

end Destructure
