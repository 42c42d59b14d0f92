import Destructure.Extension
import Destructure.Guard.Basic
import Destructure.Json.Basic
import Destructure.Outline.Basic
import Destructure.Pattern.Error
import Destructure.Registry.Table

set_option autoImplicit false

/-! # Registries

A registry holds everything that a configuration refers to by name: extractors, which are made from
their settings, predicates, guards, and constants. Names are local to their table. -/

namespace Destructure

/-- How an extractor is made from its settings. -/
abbrev ExtractorFactory := Json → Except PatternError Extractor

/-- One entry of a registry. -/
inductive Registration where
  | extractor (typeUrl : String) (factory : ExtractorFactory)
  | predicate (name : String) (predicate : Predicate)
  | guard (name : String) (guard : Guard)
  | constant (name : String) (value : Value)

/-- What configurations can refer to. -/
structure Registry where
  extractors : Table ExtractorFactory
  predicates : Table Predicate
  guards : Table Guard
  constants : Table Value

namespace Registry

def empty : Registry := ⟨.empty, .empty, .empty, .empty⟩

/-- Register one entry, in place of an earlier one of that name in its table. -/
def register (r : Registry) : Registration → Registry
  | .extractor typeUrl factory => { r with extractors := r.extractors.insert typeUrl factory }
  | .predicate name predicate => { r with predicates := r.predicates.insert name predicate }
  | .guard name guard => { r with guards := r.guards.insert name guard }
  | .constant name value => { r with constants := r.constants.insert name value }

/-- Register entries one after the other. -/
def registerAll (r : Registry) (entries : List Registration) : Registry :=
  entries.foldl register r

/-- The registry of these entries. -/
def ofList (entries : List Registration) : Registry := empty.registerAll entries

/-- The entry of a table under a name. -/
def resolve {α : Type} (kind : TableKind) (table : Table α) (name : String) :
    Except PatternError α :=
  match table.find? name with
  | some a => .ok a
  | none => .error (.unknownName name kind table.keys)

def outline (r : Registry) : Outline :=
  .fields "Registry" [
    ("extractors", .list (r.extractors.names.map .text)),
    ("predicates", .list (r.predicates.names.map .text)),
    ("guards", .list (r.guards.names.map .text)),
    ("constants", .list (r.constants.names.map .text))]

end Registry

end Destructure
