import Destructure.Config.Basic
import Destructure.Config.Record

set_option autoImplicit false

/-! # Decoding configurations

Patterns and guards are tagged forms: records whose fields depend on their `type`. `Form.decode`
reads them by schema, and every schema is listed here once. The outer records, clauses and match
expressions, are read by themselves; in the second notation of configurations they must be objects,
and their texts may be written without quotes. -/

namespace Destructure

open Record

/-! ## Forms -/

/-- The forms that parts of a pattern or a guard are written in. -/
inductive Form where
  | text
  | data
  | op
  | extractor
  | field
  | pattern
  | fields
  | patterns
  /-- Patterns, or null for a hole. -/
  | elements
  | guard
  | guards
deriving DecidableEq

namespace Form

/-- What is written in a form. -/
@[reducible] def Content : Form → Type
  | .text => String
  | .data => Json
  | .op => CompareOp
  | .extractor => ExtractorConfig
  | .field => String × PatternConfig
  | .pattern => PatternConfig
  | .fields => List (String × PatternConfig)
  | .patterns => List PatternConfig
  | .elements => List (Option PatternConfig)
  | .guard => GuardConfig
  | .guards => List GuardConfig

/-- What a form is called when something else stands in its place. -/
def title : Form → String
  | .text => "a string"
  | .data => "any value"
  | .op => "string or map"
  | .extractor => "struct TypedConfig"
  | .field => "struct FieldConfig"
  | .pattern => "internally tagged enum PatternConfig"
  | .guard => "internally tagged enum GuardConfig"
  | .fields | .patterns | .elements | .guards => "a sequence"

end Form

/-- The words for the comparison operators. -/
def CompareOp.table : List (String × CompareOp) :=
  [("==", .eq), ("eq", .eq), ("!=", .ne), ("ne", .ne), ("<", .lt), ("lt", .lt), ("<=", .le),
    ("le", .le), (">", .gt), ("gt", .gt), (">=", .ge), ("ge", .ge)]

/-! ## Schemas -/

def ExtractorConfig.schema : List (FieldSpec Form) :=
  [.required "type_url" .text, .defaulted "config" .data]

/-- The reference with those fields; without settings they are an empty object. -/
def ExtractorConfig.ofContents (contents : Contents Form.Content ExtractorConfig.schema) :
    ExtractorConfig :=
  ⟨contents.1, contents.2.1.getD (.object [])⟩

/-- The schema of one field of a mapping pattern. -/
def fieldSchema : List (FieldSpec Form) := [.required "key" .text, .required "pattern" .pattern]

/-- The tags of patterns. -/
inductive PatternTag where
  | literal
  | wildcard
  | bind
  | sequence
  | mapping
  | alternation
  | conjunction
  | predicate
  | extractor
  | regex
  | constant
deriving DecidableEq

namespace PatternTag

def table : List (String × PatternTag) :=
  [("literal", .literal), ("wildcard", .wildcard), ("bind", .bind), ("sequence", .sequence),
    ("mapping", .mapping), ("alternation", .alternation), ("conjunction", .conjunction),
    ("predicate", .predicate), ("extractor", .extractor), ("regex", .regex),
    ("constant", .constant)]

def title : PatternTag → String
  | .literal => "struct variant PatternConfig::Literal"
  | .wildcard => "unit variant PatternConfig::Wildcard"
  | .bind => "struct variant PatternConfig::Bind"
  | .sequence => "struct variant PatternConfig::Sequence"
  | .mapping => "struct variant PatternConfig::Mapping"
  | .alternation => "struct variant PatternConfig::Alternation"
  | .conjunction => "struct variant PatternConfig::Conjunction"
  | .predicate => "struct variant PatternConfig::Predicate"
  | .extractor => "struct variant PatternConfig::Extractor"
  | .regex => "struct variant PatternConfig::Regex"
  | .constant => "struct variant PatternConfig::Constant"

def schema : PatternTag → List (FieldSpec Form)
  | .literal => [.required "value" .data]
  | .wildcard => []
  | .bind => [.required "name" .text]
  | .sequence => [.required "elements" .elements, .optional "rest" .text]
  | .mapping => [.required "fields" .fields, .optional "rest" .text]
  | .alternation => [.required "branches" .patterns]
  | .conjunction => [.required "patterns" .patterns]
  | .predicate => [.required "name" .text]
  | .extractor => [.required "extractor" .extractor, .optional "inner" .pattern]
  | .regex => [.required "expression" .text, .optional "groups_as" .pattern]
  | .constant => [.required "name" .text]

/-- The pattern with that tag and those fields. -/
def config : (tag : PatternTag) → Contents Form.Content tag.schema → PatternConfig
  | .literal, (value, _) => .literal value
  | .wildcard, _ => .wildcard
  | .bind, (name, _) => .bind name
  | .sequence, (elements, rest, _) => .sequence elements rest
  | .mapping, (fields, rest, _) => .mapping fields rest
  | .alternation, (branches, _) => .alternation branches
  | .conjunction, (members, _) => .conjunction members
  | .predicate, (name, _) => .predicate name
  | .extractor, (source, inner, _) => .extractor source inner
  | .regex, (expression, inner, _) => .regex expression inner
  | .constant, (name, _) => .constant name

end PatternTag

/-- The tags of guards. -/
inductive GuardTag where
  | compare
  | all
  | any
  | not
  | bound
  | named
deriving DecidableEq

namespace GuardTag

def table : List (String × GuardTag) :=
  [("compare", .compare), ("all", .all), ("any", .any), ("not", .not), ("bound", .bound),
    ("named", .named)]

def title : GuardTag → String
  | .compare => "struct variant GuardConfig::Compare"
  | .all => "struct variant GuardConfig::All"
  | .any => "struct variant GuardConfig::Any"
  | .not => "struct variant GuardConfig::Not"
  | .bound => "struct variant GuardConfig::Bound"
  | .named => "struct variant GuardConfig::Named"

def schema : GuardTag → List (FieldSpec Form)
  | .compare => [.required "binding" .text, .required "op" .op, .required "value" .data]
  | .all => [.required "guards" .guards]
  | .any => [.required "guards" .guards]
  | .not => [.required "guard" .guard]
  | .bound => [.required "name" .text]
  | .named => [.required "name" .text]

/-- The guard with that tag and those fields. -/
def config : (tag : GuardTag) → Contents Form.Content tag.schema → GuardConfig
  | .compare, (binding, op, value, _) => .compare binding op value
  | .all, (members, _) => .all members
  | .any, (members, _) => .any members
  | .not, (inner, _) => .not inner
  | .bound, (name, _) => .bound name
  | .named, (name, _) => .named name

end GuardTag

/-! ## Patterns and guards -/

namespace Form

/-- A text, a word or a scalar of data in a form. -/
def decodeScalar (form : Form) (tree : Json) : Except DecodeError form.Content :=
  match form, tree with
  | .data, tree => .ok tree
  | .text, .text s => .ok s
  | .op, tree => unitVariant .buffered CompareOp.table tree
  | form, tree => .error (.wrongType tree form.title)

/-- An array of parts in a form; `head` is the first item as it is written. -/
def ofArray (layer : Layer) (tree : Json) (head : Option Json) (parts : List (Part Content)) :
    (form : Form) → Except DecodeError form.Content
  | .fields => parts.mapM (·.decode .field)
  | .patterns => parts.mapM (·.decode .pattern)
  | .elements =>
    parts.mapM fun part => if part.isNull then pure none else some <$> part.decode .pattern
  | .guards => parts.mapM (·.decode .guard)
  | .extractor =>
    ExtractorConfig.ofContents <$>
      ofItems .buffered (title .extractor) ExtractorConfig.schema parts
  | .field =>
    (fun contents => (contents.1, contents.2.1)) <$>
      ofItems .buffered (title .field) fieldSchema parts
  | .pattern =>
    match head with
    | none => .error (.missingField "type")
    | some head => do
      let tag ← tagOf layer PatternTag.table head
      tag.config <$> ofItems .buffered tag.title tag.schema (parts.drop 1)
  | .guard =>
    match head with
    | none => .error (.missingField "type")
    | some head => do
      let tag ← tagOf layer GuardTag.table head
      tag.config <$> ofItems .buffered tag.title tag.schema (parts.drop 1)
  | form => form.decodeScalar tree

/-- An object with those parts in a form; `entries` are its entries as they are written. -/
def ofObject (layer : Layer) (tree : Json) (entries : List (String × Json))
    (parts : List (String × Part Content)) : (form : Form) → Except DecodeError form.Content
  | .extractor => ExtractorConfig.ofContents <$> ofEntries ExtractorConfig.schema parts
  | .field => (fun contents => (contents.1, contents.2.1)) <$> ofEntries fieldSchema parts
  | .pattern => do
    let tag ← tagAmong layer PatternTag.table none entries
    tag.config <$> ofEntries tag.schema parts
  | .guard => do
    let tag ← tagAmong layer GuardTag.table none entries
    tag.config <$> ofEntries tag.schema parts
  | form => form.decodeScalar tree

mutual

/-- A tree in a form. -/
def decode (layer : Layer) (form : Form) (tree : Json) : Except DecodeError form.Content :=
  match tree with
  | .array items => ofArray layer (.array items) items.head? (partsOf items) form
  | .object entries => ofObject layer (.object entries) entries (entryParts entries) form
  | .null => form.decodeScalar .null
  | .bool b => form.decodeScalar (.bool b)
  | .int n => form.decodeScalar (.int n)
  | .float x => form.decodeScalar (.float x)
  | .text s => form.decodeScalar (.text s)
termination_by structural tree

/-- The items of an array, read ahead. -/
def partsOf : List Json → List (Part Content)
  | [] => []
  | item :: rest => ⟨item.isNull, fun form => decode .buffered form item⟩ :: partsOf rest
termination_by structural items => items

/-- The entries of an object, read ahead. -/
def entryParts : List (String × Json) → List (String × Part Content)
  | [] => []
  | (key, value) :: rest =>
    (key, ⟨value.isNull, fun form => decode .buffered form value⟩) :: entryParts rest
termination_by structural entries => entries

end

end Form

/-- A tree as a pattern. -/
def PatternConfig.ofJson (tree : Json) : Except DecodeError PatternConfig :=
  Form.decode .document .pattern tree

/-- A tree as a guard. -/
def GuardConfig.ofJson (tree : Json) : Except DecodeError GuardConfig :=
  Form.decode .document .guard tree

end Destructure
