import Mathlib.Data.List.Forall2
import Destructure.Config.Basic
import Destructure.Entries

set_option autoImplicit false

/-! # Writing configurations

The same configuration can be written in many ways (`MatchConfig.Written`). In the object of a record
only what stands under the record's keys matters, and not the order of the keys or what else there is.
An optional part that is not there may be null or missing, the settings of an extractor may be missing
when they are empty, and an operator has a word and a symbol. Data in a configuration is written as it
is. One of these ways is the canonical tree (`MatchConfig.written_toJson`), with the type first, every
key in its place and operators in words. -/

namespace Destructure

/-! ## Objects and their fields -/

/-- The tree is an object with distinct keys, in which the fields are as described. -/
def Json.IsObject (tree : Json) (P : (String → Option Json) → Prop) : Prop :=
  ∃ entries, tree = .object entries ∧ (Entries.keys entries).Nodup ∧ P (Entries.find? · entries)

/-- The tree is an object with a type, besides the fields that are described. -/
def Json.IsTagged (tree : Json) (word : String) (P : (String → Option Json) → Prop) : Prop :=
  tree.IsObject fun field => field "type" = some (.text word) ∧ P field

/-- The tree is an array of such items. -/
def Json.IsArray (tree : Json) (P : List Json → Prop) : Prop := ∃ items, tree = .array items ∧ P items

/-- A field is there, and its tree is as described. -/
def Given (P : Json → Prop) (found : Option Json) : Prop := ∃ tree, found = some tree ∧ P tree

/-- An optional field has the tree of its content; without content it is null or missing. -/
def GivenOptional {α : Type} (P : α → Json → Prop) : Option α → Option Json → Prop
  | none, found => found = none ∨ found = some .null
  | some content, found => Given (P content) found

/-- A text is written as it is. -/
def IsText (text : String) (tree : Json) : Prop := tree = .text text

theorem isText_text (text : String) : IsText text (.text text) := rfl

/-! ## Ways to write a configuration -/

/-- The word for an operator. -/
def CompareOp.word : CompareOp → String
  | .eq => "eq"
  | .ne => "ne"
  | .lt => "lt"
  | .le => "le"
  | .gt => "gt"
  | .ge => "ge"

/-- An operator is written as its word or as its symbol. -/
def CompareOp.Written (op : CompareOp) (tree : Json) : Prop :=
  tree = .text op.word ∨ tree = .text op.symbol

/-- The tree is a way to write the reference to an extractor. -/
def ExtractorConfig.Written (source : ExtractorConfig) (tree : Json) : Prop :=
  tree.IsObject fun field =>
    field "type_url" = some (.text source.typeUrl) ∧
      (field "config" = some source.config ∨ field "config" = none ∧ source.config = .object [])

namespace PatternConfig

mutual

/-- The tree is a way to write the pattern. -/
def Written : PatternConfig → Json → Prop
  | .literal value, tree => tree.IsTagged "literal" fun field => field "value" = some value
  | .wildcard, tree => tree.IsTagged "wildcard" fun _ => True
  | .bind name, tree => tree.IsTagged "bind" fun field => field "name" = some (.text name)
  | .sequence elements rest, tree => tree.IsTagged "sequence" fun field =>
    Given (·.IsArray (WrittenElements elements)) (field "elements") ∧
      GivenOptional IsText rest (field "rest")
  | .mapping fields rest, tree => tree.IsTagged "mapping" fun field =>
    Given (·.IsArray (WrittenFields fields)) (field "fields") ∧
      GivenOptional IsText rest (field "rest")
  | .alternation branches, tree => tree.IsTagged "alternation" fun field =>
    Given (·.IsArray (WrittenAll branches)) (field "branches")
  | .conjunction members, tree => tree.IsTagged "conjunction" fun field =>
    Given (·.IsArray (WrittenAll members)) (field "patterns")
  | .predicate name, tree => tree.IsTagged "predicate" fun field =>
    field "name" = some (.text name)
  | .extractor source inner, tree => tree.IsTagged "extractor" fun field =>
    Given source.Written (field "extractor") ∧ WrittenInner inner (field "inner")
  | .regex expression inner, tree => tree.IsTagged "regex" fun field =>
    field "expression" = some (.text expression) ∧ WrittenInner inner (field "groups_as")
  | .constant name, tree => tree.IsTagged "constant" fun field =>
    field "name" = some (.text name)

def WrittenAll : List PatternConfig → List Json → Prop
  | [], items => items = []
  | config :: rest, items => ∃ item others, items = item :: others ∧
    config.Written item ∧ WrittenAll rest others

/-- Null stands for a hole. -/
def WrittenElements : List (Option PatternConfig) → List Json → Prop
  | [], items => items = []
  | none :: rest, items => ∃ others, items = .null :: others ∧ WrittenElements rest others
  | some config :: rest, items => ∃ item others, items = item :: others ∧
    config.Written item ∧ WrittenElements rest others

def WrittenFields : List (String × PatternConfig) → List Json → Prop
  | [], items => items = []
  | (key, config) :: rest, items => ∃ item others, items = item :: others ∧
    (item.IsObject fun field =>
      field "key" = some (.text key) ∧ Given config.Written (field "pattern")) ∧
    WrittenFields rest others

def WrittenInner : Option PatternConfig → Option Json → Prop
  | none, found => found = none ∨ found = some .null
  | some config, found => Given config.Written found

end

end PatternConfig

namespace GuardConfig

mutual

/-- The tree is a way to write the guard. -/
def Written : GuardConfig → Json → Prop
  | .compare binding op value, tree => tree.IsTagged "compare" fun field =>
    field "binding" = some (.text binding) ∧ Given op.Written (field "op") ∧
      field "value" = some value
  | .all members, tree => tree.IsTagged "all" fun field =>
    Given (·.IsArray (WrittenAll members)) (field "guards")
  | .any members, tree => tree.IsTagged "any" fun field =>
    Given (·.IsArray (WrittenAll members)) (field "guards")
  | .not inner, tree => tree.IsTagged "not" fun field => Given inner.Written (field "guard")
  | .bound name, tree => tree.IsTagged "bound" fun field => field "name" = some (.text name)
  | .named name, tree => tree.IsTagged "named" fun field => field "name" = some (.text name)

def WrittenAll : List GuardConfig → List Json → Prop
  | [], items => items = []
  | config :: rest, items => ∃ item others, items = item :: others ∧
    config.Written item ∧ WrittenAll rest others

end

end GuardConfig

/-- The tree is a way to write the clause. -/
def ClauseConfig.Written (config : ClauseConfig String) (tree : Json) : Prop :=
  tree.IsObject fun field =>
    GivenOptional PatternConfig.Written config.capture (field "capture") ∧
      GivenOptional PatternConfig.Written config.pattern (field "pattern") ∧
      GivenOptional GuardConfig.Written config.guard (field "guard") ∧
      field "body" = some (.text config.body)

/-- The tree is a way to write the match expression. -/
def MatchConfig.Written (config : MatchConfig String) (tree : Json) : Prop :=
  tree.IsObject fun field =>
    Given (·.IsArray (List.Forall₂ ClauseConfig.Written config.clauses)) (field "clauses") ∧
      GivenOptional IsText config.default (field "default")

/-! ## The canonical way -/

/-- An object with its type first. -/
def Json.tagged (word : String) (fields : List (String × Json)) : Json :=
  .object (("type", .text word) :: fields)

/-- The tree of an optional content; null when there is none. -/
def Json.optional {α : Type} (write : α → Json) : Option α → Json
  | none => .null
  | some content => write content

def ExtractorConfig.toJson (source : ExtractorConfig) : Json :=
  .object [("type_url", .text source.typeUrl), ("config", source.config)]

namespace PatternConfig

mutual

/-- The canonical tree of the pattern. -/
def toJson : PatternConfig → Json
  | .literal value => .tagged "literal" [("value", value)]
  | .wildcard => .tagged "wildcard" []
  | .bind name => .tagged "bind" [("name", .text name)]
  | .sequence elements rest => .tagged "sequence"
    [("elements", .array (elementsToJson elements)), ("rest", .optional .text rest)]
  | .mapping fields rest => .tagged "mapping"
    [("fields", .array (fieldsToJson fields)), ("rest", .optional .text rest)]
  | .alternation branches => .tagged "alternation" [("branches", .array (allToJson branches))]
  | .conjunction members => .tagged "conjunction" [("patterns", .array (allToJson members))]
  | .predicate name => .tagged "predicate" [("name", .text name)]
  | .extractor source inner => .tagged "extractor"
    [("extractor", source.toJson), ("inner", innerToJson inner)]
  | .regex expression inner => .tagged "regex"
    [("expression", .text expression), ("groups_as", innerToJson inner)]
  | .constant name => .tagged "constant" [("name", .text name)]

def allToJson : List PatternConfig → List Json
  | [] => []
  | config :: rest => config.toJson :: allToJson rest

def elementsToJson : List (Option PatternConfig) → List Json
  | [] => []
  | none :: rest => .null :: elementsToJson rest
  | some config :: rest => config.toJson :: elementsToJson rest

def fieldsToJson : List (String × PatternConfig) → List Json
  | [] => []
  | (key, config) :: rest =>
    .object [("key", .text key), ("pattern", config.toJson)] :: fieldsToJson rest

def innerToJson : Option PatternConfig → Json
  | none => .null
  | some config => config.toJson

end

end PatternConfig

namespace GuardConfig

mutual

/-- The canonical tree of the guard. -/
def toJson : GuardConfig → Json
  | .compare binding op value => .tagged "compare"
    [("binding", .text binding), ("op", .text op.word), ("value", value)]
  | .all members => .tagged "all" [("guards", .array (allToJson members))]
  | .any members => .tagged "any" [("guards", .array (allToJson members))]
  | .not inner => .tagged "not" [("guard", inner.toJson)]
  | .bound name => .tagged "bound" [("name", .text name)]
  | .named name => .tagged "named" [("name", .text name)]

def allToJson : List GuardConfig → List Json
  | [] => []
  | config :: rest => config.toJson :: allToJson rest

end

end GuardConfig

def ClauseConfig.toJson (config : ClauseConfig String) : Json :=
  .object [("capture", .optional PatternConfig.toJson config.capture),
    ("pattern", .optional PatternConfig.toJson config.pattern),
    ("guard", .optional GuardConfig.toJson config.guard), ("body", .text config.body)]

/-- The canonical tree of the match expression. -/
def MatchConfig.toJson (config : MatchConfig String) : Json :=
  .object [("clauses", .array (config.clauses.map ClauseConfig.toJson)),
    ("default", .optional .text config.default)]

/-! ## The canonical way is one of the ways -/

variable {P : (String → Option Json) → Prop}

theorem Json.isTagged_tagged {word : String} {fields : List (String × Json)}
    (hkeys : ("type" :: Entries.keys fields).Nodup)
    (h : P (Entries.find? · (("type", .text word) :: fields))) :
    (Json.tagged word fields).IsTagged word P := ⟨_, rfl, hkeys, rfl, h⟩

theorem givenOptional_optional {α : Type} {Q : α → Json → Prop} {write : α → Json}
    (h : ∀ content, Q content (write content)) (content : Option α) :
    GivenOptional Q content (some (Json.optional write content)) := by
  cases content with
  | none => exact .inr rfl
  | some content => exact ⟨_, rfl, h content⟩

theorem ExtractorConfig.written_toJson (source : ExtractorConfig) : source.Written source.toJson :=
  ⟨_, rfl, by simp [Entries.keys], rfl, .inl rfl⟩

namespace PatternConfig

mutual

theorem written_toJson : (config : PatternConfig) → config.Written config.toJson
  | .literal value => Json.isTagged_tagged (by simp [Entries.keys]) rfl
  | .wildcard => Json.isTagged_tagged (by simp [Entries.keys]) trivial
  | .bind name => Json.isTagged_tagged (by simp [Entries.keys]) rfl
  | .sequence elements rest => Json.isTagged_tagged (by simp [Entries.keys])
    ⟨⟨_, rfl, _, rfl, writtenElements_toJson elements⟩, givenOptional_optional isText_text rest⟩
  | .mapping fields rest => Json.isTagged_tagged (by simp [Entries.keys])
    ⟨⟨_, rfl, _, rfl, writtenFields_toJson fields⟩, givenOptional_optional isText_text rest⟩
  | .alternation branches => Json.isTagged_tagged (by simp [Entries.keys])
    ⟨_, rfl, _, rfl, writtenAll_toJson branches⟩
  | .conjunction members => Json.isTagged_tagged (by simp [Entries.keys])
    ⟨_, rfl, _, rfl, writtenAll_toJson members⟩
  | .predicate name => Json.isTagged_tagged (by simp [Entries.keys]) rfl
  | .extractor source inner => Json.isTagged_tagged (by simp [Entries.keys])
    ⟨⟨_, rfl, source.written_toJson⟩, writtenInner_toJson inner⟩
  | .regex expression inner => Json.isTagged_tagged (by simp [Entries.keys])
    ⟨rfl, writtenInner_toJson inner⟩
  | .constant name => Json.isTagged_tagged (by simp [Entries.keys]) rfl

theorem writtenAll_toJson : (configs : List PatternConfig) → WrittenAll configs (allToJson configs)
  | [] => rfl
  | config :: rest => ⟨_, _, rfl, config.written_toJson, writtenAll_toJson rest⟩

theorem writtenElements_toJson : (elements : List (Option PatternConfig)) →
    WrittenElements elements (elementsToJson elements)
  | [] => rfl
  | none :: rest => ⟨_, rfl, writtenElements_toJson rest⟩
  | some config :: rest => ⟨_, _, rfl, config.written_toJson, writtenElements_toJson rest⟩

theorem writtenFields_toJson : (fields : List (String × PatternConfig)) →
    WrittenFields fields (fieldsToJson fields)
  | [] => rfl
  | (_, config) :: rest =>
    ⟨_, _, rfl, ⟨_, rfl, by simp [Entries.keys], rfl, _, rfl, config.written_toJson⟩,
      writtenFields_toJson rest⟩

theorem writtenInner_toJson : (inner : Option PatternConfig) →
    WrittenInner inner (some (innerToJson inner))
  | none => .inr rfl
  | some config => ⟨_, rfl, config.written_toJson⟩

end

end PatternConfig

namespace GuardConfig

mutual

theorem written_toJson : (config : GuardConfig) → config.Written config.toJson
  | .compare binding op value => Json.isTagged_tagged (by simp [Entries.keys])
    ⟨rfl, ⟨_, rfl, .inl rfl⟩, rfl⟩
  | .all members => Json.isTagged_tagged (by simp [Entries.keys])
    ⟨_, rfl, _, rfl, writtenAll_toJson members⟩
  | .any members => Json.isTagged_tagged (by simp [Entries.keys])
    ⟨_, rfl, _, rfl, writtenAll_toJson members⟩
  | .not inner => Json.isTagged_tagged (by simp [Entries.keys]) ⟨_, rfl, inner.written_toJson⟩
  | .bound name => Json.isTagged_tagged (by simp [Entries.keys]) rfl
  | .named name => Json.isTagged_tagged (by simp [Entries.keys]) rfl

theorem writtenAll_toJson : (configs : List GuardConfig) → WrittenAll configs (allToJson configs)
  | [] => rfl
  | config :: rest => ⟨_, _, rfl, config.written_toJson, writtenAll_toJson rest⟩

end

end GuardConfig

theorem ClauseConfig.written_toJson (config : ClauseConfig String) : config.Written config.toJson :=
  ⟨_, rfl, by simp [Entries.keys],
    givenOptional_optional PatternConfig.written_toJson config.capture,
    givenOptional_optional PatternConfig.written_toJson config.pattern,
    givenOptional_optional GuardConfig.written_toJson config.guard, rfl⟩

theorem MatchConfig.written_toJson (config : MatchConfig String) : config.Written config.toJson :=
  ⟨_, rfl, by simp [Entries.keys],
    ⟨_, rfl, _, rfl, List.forall₂_map_right_iff.2
      (List.forall₂_same.2 fun clause _ => clause.written_toJson)⟩,
    givenOptional_optional isText_text config.default⟩

end Destructure
