import Destructure.Guard.Basic
import Destructure.Pattern.Basic

set_option autoImplicit false

/-! # Runs

Matching and guards call extensions. A `Run` is a result together with the calls that were made on
the way to it, in order; a failure ends the run. Every call tells its *site*, the address of the node
it came from: the numbers of the children on the way from the root. -/

namespace Destructure

/-- The address of a node: which child to take at each level, from the root. -/
abbrev Site := List Nat

/-- What was called, and on what. -/
inductive Event where
  | extract (extractor : Extractor) (subject : Value)
  | search (engine : Regex.Engine) (subject : Value)
  | test (predicate : Predicate) (subject : Value) (scope : Scope)
  /-- A leaf of a guard was evaluated. -/
  | check (leaf : Guard) (scope : Scope)

/-- One call of an extension. -/
structure Call where
  site : Site
  event : Event

/-- The lines that a call adds to the log. -/
def Call.lines (call : Call) : List String :=
  match call.event with
  | .extract extractor subject => extractor.log subject
  | .search _ _ => []
  | .test predicate subject scope => predicate.log subject scope
  | .check (.custom guard) scope => guard.log scope
  | .check _ _ => []

/-- A result with the calls made on the way to it. -/
structure Run (ε α : Type) where
  calls : List Call
  result : Except ε α

namespace Run

variable {ε ε' α β : Type}

/-- A result without calls. -/
protected def pure (a : α) : Run ε α := ⟨[], .ok a⟩

/-- A failure without calls. -/
def fail (e : ε) : Run ε α := ⟨[], .error e⟩

/-- A result that needs no calls. -/
def ofExcept (result : Except ε α) : Run ε α := ⟨[], result⟩

/-- A result that needed one call. -/
def called (call : Call) (result : Except ε α) : Run ε α := ⟨[call], result⟩

/-- Go on with the result, unless the run failed. -/
protected def bind (run : Run ε α) (next : α → Run ε β) : Run ε β :=
  match run.result with
  | .ok a =>
    let after := next a
    ⟨run.calls ++ after.calls, after.result⟩
  | .error e => ⟨run.calls, .error e⟩

instance : Monad (Run ε) where
  pure := Run.pure
  bind := Run.bind

/-- The run with another form of its failure. -/
def mapError (f : ε → ε') (run : Run ε α) : Run ε' α :=
  ⟨run.calls, match run.result with
    | .ok a => .ok a
    | .error e => .error (f e)⟩

/-- The log of a run. -/
def lines (run : Run ε α) : List String := run.calls.flatMap Call.lines

end Run

end Destructure
