import Destructure.Extension
import Destructure.Guard.Basic

set_option autoImplicit false

/-! # Errors of matching

A subject that does not have a pattern's form is no error. Errors are broken extensions, failing
guards, and a match expression that no clause of which applies. -/

namespace Destructure

/-- What an extractor's output lacks for the pattern that takes it apart. -/
inductive ContractFault where
  /-- There are groups of one kind only, and the pattern demands the other. -/
  | otherGroups (produced demanded : Kind)
  /-- There is neither a value nor groups. -/
  | nothingProduced
deriving DecidableEq

def ContractFault.message : ContractFault → String
  | .otherGroups produced demanded =>
    "produced " ++ produced.name ++ " groups and no value, but the pattern destructures a "
      ++ demanded.name
  | .nothingProduced => "reported a match but produced neither a value nor groups to destructure"

/-- Why matching fails. -/
inductive MatchError where
  | extractorContract (extractor : String) (fault : ContractFault)
  | guardEvaluation (clause : Nat) (source : GuardError)
  | predicateEvaluation (predicate : String) (source : CallError)
  /-- No clause applied and there is no default. -/
  | exhausted (clauses : Nat)
deriving DecidableEq

namespace MatchError

def message : MatchError → String
  | .extractorContract extractor fault =>
    "extractor \"" ++ extractor ++ "\" violated its contract: " ++ fault.message
  | .guardEvaluation clause source =>
    "guard of clause " ++ toString clause ++ " failed: " ++ source.message
  | .predicateEvaluation predicate source =>
    "predicate \"" ++ predicate ++ "\" failed: " ++ source.message
  | .exhausted clauses =>
    "no clause matched the subject (" ++ toString clauses ++ " clauses tried, no default clause)"

def isExhausted : MatchError → Bool
  | .exhausted _ => true
  | _ => false

end MatchError

end Destructure
