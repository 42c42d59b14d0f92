import Destructure.Value.Basic

set_option autoImplicit false

/-! # Bindings and scopes

`Bindings` are the names that one successful match binds, in binding order; no name occurs twice. A
`Scope` is a chain of such frames. Looking up a name tries the innermost frame first, so a clause's
own bindings hide the enclosing ones. -/

namespace Destructure

/-- Distinct names with their values, in binding order. -/
structure Bindings where
  entries : List (String × Value)
  nodup : (Entries.keys entries).Nodup

namespace Bindings

def empty : Bindings := ⟨[], List.nodup_nil⟩

instance : Inhabited Bindings := ⟨empty⟩

/-- Bind a name at the end; a name that is already bound gets the new value in its old place. -/
def bind (b : Bindings) (name : String) (value : Value) : Bindings :=
  ⟨Entries.insert name value b.entries, Entries.nodup_keys_insert b.nodup⟩

/-- Keep the first `n` bindings. -/
def truncate (b : Bindings) (n : Nat) : Bindings :=
  ⟨b.entries.take n, by
    simp only [Entries.keys, List.map_take]
    exact b.nodup.sublist (List.take_sublist n _)⟩

/-- The bindings made one after the other. -/
def ofList (entries : List (String × Value)) : Bindings :=
  ⟨Entries.ofList entries, Entries.nodup_keys_ofList entries⟩

def get? (b : Bindings) (name : String) : Option Value := Entries.find? name b.entries

/-- A name just bound has its new value, and the other names keep theirs. -/
theorem get?_bind (b : Bindings) (name other : String) (value : Value) :
    (b.bind name value).get? other = if name = other then some value else b.get? other :=
  Entries.find?_insert name other value b.entries

def contains (b : Bindings) (name : String) : Bool := (b.get? name).isSome

def size (b : Bindings) : Nat := b.entries.length

def names (b : Bindings) : List String := Entries.keys b.entries

/-- The bindings as a mapping. -/
def toValue (b : Bindings) : Value := .mapping b.entries

@[ext] theorem ext {a b : Bindings} (h : a.entries = b.entries) : a = b := by
  cases a; cases b; simp_all

end Bindings

/-- A chain of frames, the innermost one first. -/
structure Scope where
  frame : Bindings
  enclosing : List Bindings

namespace Scope

/-- One empty frame. -/
def root : Scope := ⟨.empty, []⟩

instance : Inhabited Scope := ⟨root⟩

def ofBindings (b : Bindings) : Scope := ⟨b, []⟩

/-- A new innermost frame. -/
def child (s : Scope) (b : Bindings) : Scope := ⟨b, s.frame :: s.enclosing⟩

/-- The value of a name, innermost frame first. -/
def lookup (s : Scope) (name : String) : Option Value :=
  (s.frame :: s.enclosing).findSome? (·.get? name)

/-- A new frame hides the enclosing ones for the names that it binds, and for no other. -/
theorem lookup_child (s : Scope) (b : Bindings) (name : String) :
    (s.child b).lookup name = (b.get? name).or (s.lookup name) := by
  simp only [lookup, child, List.findSome?_cons]
  cases b.get? name <;> rfl

/-- The number of frames. -/
def depth (s : Scope) : Nat := s.enclosing.length + 1

end Scope

end Destructure
