import Destructure.Config.DecodeError
import Destructure.Entries

set_option autoImplicit false

/-! # Records

A record is written as an object, whose entries may come in any order, or as an array of its field
values in declaration order. A *schema* lists the fields with the form of each one's value. Entries
under keys that the schema does not name are ignored.

Problems are reported in the order of the tree: first those of the entries as they come, then the
fields that are missing, in declaration order. So that this order holds, entries are handed over as
*parts*, which are decoded only once their form is known. -/

namespace Destructure.Record

variable {F : Type} {C : F → Type}

/-- Whether a field must be there. -/
inductive Presence where
  | required
  /-- The field may be missing, and null stands for that. -/
  | optional
  /-- The field may be missing, but null is a value like any other. -/
  | defaulted
deriving DecidableEq

/-- A field of a schema. -/
structure FieldSpec (F : Type) where
  name : String
  form : F
  presence : Presence

namespace FieldSpec

def required (name : String) (form : F) : FieldSpec F := ⟨name, form, .required⟩

def optional (name : String) (form : F) : FieldSpec F := ⟨name, form, .optional⟩

def defaulted (name : String) (form : F) : FieldSpec F := ⟨name, form, .defaulted⟩

/-- What a field holds after decoding; `C` gives the content of each form. -/
@[reducible] def Content (C : F → Type) (field : FieldSpec F) : Type :=
  match field.presence with
  | .required => C field.form
  | .optional => Option (C field.form)
  | .defaulted => Option (C field.form)

end FieldSpec

/-- A part of a tree that can be decoded in any form. -/
structure Part (C : F → Type) where
  isNull : Bool
  decode : (form : F) → Except DecodeError (C form)

/-- The part that a tree is. -/
def Part.ofJson (decode : (form : F) → Json → Except DecodeError (C form)) (tree : Json) : Part C :=
  ⟨tree.isNull, fun form => decode form tree⟩

namespace FieldSpec

/-- The content of a field that is there. -/
def read (field : FieldSpec F) (part : Part C) : Except DecodeError (field.Content C) :=
  match field with
  | ⟨_, form, .required⟩ => part.decode form
  | ⟨_, form, .optional⟩ => if part.isNull then .ok none else some <$> part.decode form
  | ⟨_, form, .defaulted⟩ => some <$> part.decode form

/-- The content of a field that is missing. -/
def absent? (C : F → Type) (field : FieldSpec F) : Option (field.Content C) :=
  match field with
  | ⟨_, _, .required⟩ => none
  | ⟨_, _, .optional⟩ => some none
  | ⟨_, _, .defaulted⟩ => some none

end FieldSpec

/-- The contents of all fields of a schema. -/
@[reducible] def Contents (C : F → Type) : List (FieldSpec F) → Type
  | [] => Unit
  | field :: rest => field.Content C × Contents C rest

/-- The contents met so far. -/
@[reducible] def Slots (C : F → Type) : List (FieldSpec F) → Type
  | [] => Unit
  | field :: rest => Option (field.Content C) × Slots C rest

/-- No field met yet. -/
def noSlots (C : F → Type) : (schema : List (FieldSpec F)) → Slots C schema
  | [] => ()
  | _ :: rest => (none, noSlots C rest)

/-- Take in one entry. -/
def visit : (schema : List (FieldSpec F)) → Slots C schema → String → Part C →
    Except DecodeError (Slots C schema)
  | [], _, _, _ => .ok ()
  | field :: rest, (slot, slots), key, part =>
    if field.name = key then
      match slot with
      | some _ => .error (.duplicateField key)
      | none => do
        let content ← field.read part
        return (some content, slots)
    else do
      let slots ← visit rest slots key part
      return (slot, slots)

/-- Take in entries in their order. -/
def visitAll (schema : List (FieldSpec F)) (slots : Slots C schema) :
    List (String × Part C) → Except DecodeError (Slots C schema)
  | [] => .ok slots
  | (key, part) :: rest => do
    let slots ← visit schema slots key part
    visitAll schema slots rest

/-- The contents, once all entries have been taken in. -/
def complete : (schema : List (FieldSpec F)) → Slots C schema → Except DecodeError (Contents C schema)
  | [], _ => .ok ()
  | field :: rest, (slot, slots) =>
    match slot, field.absent? C with
    | some content, _ => do
      let contents ← complete rest slots
      return (content, contents)
    | none, some content => do
      let contents ← complete rest slots
      return (content, contents)
    | none, none => .error (.missingField field.name)

/-- The contents of an object. -/
def ofEntries (schema : List (FieldSpec F)) (entries : List (String × Part C)) :
    Except DecodeError (Contents C schema) := do
  let slots ← visitAll schema (noSlots C schema) entries
  complete schema slots

/-- A number of elements in words. -/
def elementCount (n : Nat) : String := toString n ++ (if n = 1 then " element" else " elements")

/-- The contents of an array and the parts after them; `taken` parts came before, and `expected`
says what the whole array should be. -/
def takeItems (expected : String) (taken : Nat) : (schema : List (FieldSpec F)) → List (Part C) →
    Except DecodeError (Contents C schema × List (Part C))
  | [], parts => .ok ((), parts)
  | field :: rest, part :: parts => do
    let content ← field.read part
    let (contents, parts) ← takeItems expected (taken + 1) rest parts
    return ((content, contents), parts)
  | field :: rest, [] =>
    match field.absent? C with
    | some content => do
      let (contents, parts) ← takeItems expected (taken + 1) rest []
      return ((content, contents), parts)
    | none => .error (.wrongLength taken expected)

/-- Where a tree stands: by itself, or inside a tagged form, which reads its parts ahead. The two
differ in a few error messages and in what they accept as the word for a variant. -/
inductive Layer where
  | document
  | buffered
deriving DecidableEq

/-- What an array with too many items should have been. -/
def Layer.surplus (layer : Layer) (count : Nat) : String :=
  match layer with
  | .document => "fewer elements in array"
  | .buffered => elementCount count ++ " in sequence"

/-- The contents of an array. -/
def ofItems (layer : Layer) (title : String) (schema : List (FieldSpec F)) (parts : List (Part C)) :
    Except DecodeError (Contents C schema) := do
  let (contents, surplus) ←
    takeItems (title ++ " with " ++ elementCount schema.length) 0 schema parts
  if surplus.isEmpty then return contents
  else .error (.wrongLength parts.length (layer.surplus schema.length))

/-! ## Words -/

/-- The variant that a text names. -/
def wordOf {α : Type} (table : List (String × α)) (found : String) : Except DecodeError α :=
  match Entries.find? found table with
  | some a => .ok a
  | none => .error (.unknownVariant found (Entries.keys table))

/-- The variant that a tag names: by its word, or inside a tagged form by its number. -/
def tagOf {α : Type} (layer : Layer) (table : List (String × α)) (tree : Json) :
    Except DecodeError α :=
  match layer, tree with
  | _, .text found => wordOf table found
  | .buffered, .int (.ofNat index) =>
    match table[index]? with
    | some (_, a) => .ok a
    | none => .error (.unknownIndex index table.length)
  | _, tree => .error (.wrongType tree "variant identifier")

/-- Whether a tree may stand under the word of a variant that has no content. -/
def isUnit (layer : Layer) (tree : Json) : Bool :=
  match layer, tree with
  | _, .null => true
  | .buffered, .object [] => true
  | _, _ => false

/-- The variant without content that a tree stands for: its word, or an object whose only key is the
word. -/
def unitVariant {α : Type} (layer : Layer) (table : List (String × α)) (tree : Json) :
    Except DecodeError α :=
  match tree with
  | .text found => wordOf table found
  | .object [(found, content)] => do
    let a ← wordOf table found
    if isUnit layer content then return a else .error (.wrongType content "unit")
  | .object _ => .error .notSingleKey
  | tree => .error (.wrongType tree "string or map")

/-- The tag among the entries of a tagged form. -/
def tagAmong {α : Type} (layer : Layer) (table : List (String × α)) (tag : Option α) :
    List (String × Json) → Except DecodeError α
  | [] =>
    match tag with
    | some a => .ok a
    | none => .error (.missingField "type")
  | (key, tree) :: rest =>
    if key = "type" then
      match tag with
      | some _ => .error (.duplicateField "type")
      | none => do
        let a ← tagOf layer table tree
        tagAmong layer table (some a) rest
    else tagAmong layer table tag rest

end Destructure.Record
