import Destructure.Number.Rounding
import Destructure.Registry.Core

set_option autoImplicit false

/-! # The reference domain

The extensions that come with the library: optional values, which only their own extractors can open,
markers for two control characters, a predicate on HTTP status codes, and a guard that allows one
retry. `Domain.registry` is what the command line and fixtures load configurations with. -/

namespace Destructure.Domain

/-! ## Optional values -/

/-- The content of an optional value, `none` for anything else. -/
def optional? : Value → Option (Option Value)
  | .option _ content => some content
  | _ => none

/-- Accepts optional values that have a content and produces it. -/
def someExtractor : Extractor where
  name := "Option.Some"
  description := "SomeExtractor"
  extract subject :=
    match optional? subject with
    | some (some content) => .produced content
    | _ => .rejected

/-- Accepts optional values that have no content. -/
def noneExtractor : Extractor where
  name := "Option.None"
  description := "NoneExtractor"
  extract subject :=
    match optional? subject with
    | some none => .accepted
    | _ => .rejected

/-! ## Character markers -/

/-- The one marker for a line feed. -/
def lineFeed : Value := .marker [0] ⟨"LF", 0x0a⟩

/-- The one marker for a carriage return. -/
def carriageReturn : Value := .marker [1] ⟨"CR", 0x0d⟩

/-! ## Conditions -/

/-- Whether a number lies in an interval that contains its lower end only. -/
def isBetween (low high : Nat) (x : Number) : Bool :=
  (Number.ofNat low).compare? x != some .gt && !x.isNaN && x.compare? (Number.ofNat high) == some .lt

/-- Status codes that blame the server. -/
def isServerError : Predicate where
  name := "is_server_error"
  call subject _ := .ok (.bool (subject.number?.any (isBetween 500 600)))

/-- Nothing in scope says that there was a retry. -/
def canRetry : Guard := .not (.bound "has_retried")

/-! ## The registry -/

/-- The entries of the domain. -/
def entries : List Registration :=
  coreEntries ++ [
    .extractor "test.v1.OptionSome" (plainFactory someExtractor),
    .extractor "test.v1.OptionNone" (plainFactory noneExtractor),
    .constant "LF" lineFeed,
    .constant "CR" carriageReturn,
    .predicate "is_server_error" isServerError,
    .guard "can_retry" canRetry]

/-- The registry of the domain alone. -/
def registry : Registry := .ofList entries

end Destructure.Domain
