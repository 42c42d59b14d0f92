import Destructure.Number.Shortest
import Destructure.Text.Quoted

set_option autoImplicit false

/-! # Outlines

An outline is the structure of a description, as debug output shows it: a word, a name with parts or
with named fields, a list, or a table of text keys. `Outline.render` writes one on a single line. -/

namespace Destructure

/-- The structure of a description. -/
inductive Outline where
  | word (text : String)
  /-- A name with parts between parentheses. -/
  | call (name : String) (parts : List Outline)
  /-- A name with named fields. -/
  | fields (name : String) (entries : List (String × Outline))
  | list (items : List Outline)
  /-- Entries under quoted keys. -/
  | table (entries : List (String × Outline))
deriving Inhabited

namespace Outline

/-- A text between quotes. -/
def text (s : String) : Outline := .word (Text.quoted s)

def nat (n : Nat) : Outline := .word (toString n)

def bool (b : Bool) : Outline := .word (if b then "true" else "false")

/-- Something that may be absent. -/
def option (content : Option Outline) : Outline :=
  match content with
  | some outline => .call "Some" [outline]
  | none => .word "None"

/-- Numbers are positional from `0.0001` up to sixteen digits before the point. -/
def numberLayout : Layout := ⟨-4, 15, false⟩

/-- Any number, also one that is not finite. -/
def number (x : Number) : Outline :=
  .word (if x.isNaN then "NaN"
    else if x.isFinite then numberLayout.write x
    else if x.negative then "-inf" else "inf")

/-- Named fields between braces. -/
def braced (parts : List String) : String :=
  if parts.isEmpty then "" else " \x7b " ++ ", ".intercalate parts ++ " \x7d"

mutual

/-- The outline on one line. -/
def render : Outline → String
  | .word text => text
  | .call name parts => name ++ "(" ++ ", ".intercalate (renderAll parts) ++ ")"
  | .fields name entries => name ++ braced (renderFields entries)
  | .list items => "[" ++ ", ".intercalate (renderAll items) ++ "]"
  | .table entries => "\x7b" ++ ", ".intercalate (renderEntries entries) ++ "\x7d"

def renderAll : List Outline → List String
  | [] => []
  | item :: rest => item.render :: renderAll rest

def renderFields : List (String × Outline) → List String
  | [] => []
  | (name, value) :: rest => (name ++ ": " ++ value.render) :: renderFields rest

def renderEntries : List (String × Outline) → List String
  | [] => []
  | (key, value) :: rest => (Text.quoted key ++ ": " ++ value.render) :: renderEntries rest

end

end Outline

end Destructure
