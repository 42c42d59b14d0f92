import Destructure.Entries

set_option autoImplicit false

/-! # Tables

A table holds entries under distinct names, and a later entry under a name replaces an earlier one. It
goes through its entries in some order, which means nothing; whoever shows names sorts them. -/

namespace Destructure

/-- Entries under distinct names, in an order that means nothing. -/
structure Table (α : Type) where
  stored : List (String × α)
  nodup : (Entries.keys stored).Nodup

namespace Table

variable {α : Type}

def empty : Table α := ⟨[], List.nodup_nil⟩

instance : Inhabited (Table α) := ⟨empty⟩

/-- The entries under other names. -/
def others (table : Table α) (name : String) : List (String × α) :=
  table.stored.filter fun entry => entry.1 != name

theorem nodup_keys_cons_others (table : Table α) (name : String) (value : α) :
    (Entries.keys ((name, value) :: table.others name)).Nodup := by
  refine List.nodup_cons.2 ⟨?_, table.nodup.sublist (List.filter_sublist.map _)⟩
  simp [others]

/-- Put in an entry, in place of an earlier one of that name. -/
def insert (table : Table α) (name : String) (value : α) : Table α :=
  ⟨(name, value) :: table.others name, table.nodup_keys_cons_others name value⟩

/-- The value under a name. -/
def find? (table : Table α) (name : String) : Option α := Entries.find? name table.stored

/-- An entry that was put in is found under its name, and the other names keep theirs. -/
theorem find?_insert (table : Table α) (name key : String) (value : α) :
    (table.insert name value).find? key = if name = key then some value else table.find? key := by
  show Entries.find? key ((name, value) :: table.others name) = _
  rw [Entries.find?]
  split
  · rfl
  · next h =>
    have hkeep : key != name := bne_iff_ne.2 (Ne.symm h)
    exact @Entries.find?_filter α (· != name) key hkeep table.stored

/-- The names, in the order of the entries. -/
def keys (table : Table α) : List String := Entries.keys table.stored

/-- The entries in ascending order of their names. -/
def entries (table : Table α) : List (String × α) :=
  table.stored.mergeSort fun a b => !decide (b.1 < a.1)

/-- The names, in ascending order. -/
def names (table : Table α) : List String := table.entries.map (·.1)

end Table

end Destructure
