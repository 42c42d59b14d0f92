import Destructure.Entries
import Destructure.Extension
import Destructure.Number.Rounding
import Destructure.Text.Quoted

set_option autoImplicit false

/-! # Regular expressions as extractors

An *engine* finds the captures of one expression in a text. `Engine.extract` turns them into an
extraction with two views of the same match: positional groups, the whole match first, and a record
of the match, its position, its groups and its named groups. A group that took no part is `null` in
both. -/

namespace Destructure.Regex

/-- The captures of one match. -/
structure Captures where
  /-- Every group in order, group 0 (the whole match) first. -/
  positional : List (Option String)
  /-- The named groups, in the order of their numbers. -/
  named : List (String × Option String)
  /-- How many bytes of the text stand before the match. -/
  index : Nat
  namesOnce : (Entries.keys named).Nodup

/-- A compiled expression. -/
structure Engine where
  /-- The expression as it was written. -/
  source : String
  /-- The captures of the match in a text. -/
  execute : String → Option Captures

/-- A group as a value. -/
def groupValue : Option String → Value
  | some s => .text s
  | none => .null

namespace Captures

/-- Every group as a value, the whole match first. -/
def groups (captures : Captures) : List Value := captures.positional.map groupValue

/-- The match as a mapping: the matched text, its byte position, the groups without the whole match,
and the named groups. -/
def record (captures : Captures) : Value :=
  .mapping [
    ("match", groupValue (captures.positional.head?.join)),
    ("index", .number (Number.ofNat captures.index)),
    ("groups", .sequence (captures.groups.drop 1)),
    ("named", .mapping (captures.named.map fun (name, group) => (name, groupValue group)))]

end Captures

namespace Engine

/-- A text that the engine matches is accepted, with both views of the match. -/
def extract (engine : Engine) (subject : Value) : Extraction :=
  match subject with
  | .text s =>
    match engine.execute s with
    | some captures => ⟨true, some captures.record, some (.sequence captures.groups)⟩
    | none => .rejected
  | _ => .rejected

/-- The engine as an extractor named by its source. -/
def extractor (engine : Engine) : Extractor where
  name := engine.source
  description := "RegexExtractor(" ++ Text.quoted engine.source ++ ")"
  extract := engine.extract

end Engine

end Destructure.Regex
