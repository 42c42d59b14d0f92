import Destructure.Proofs.Matching.Inheritance
import Destructure.Proofs.Value.RoundTrip

set_option autoImplicit false

/-! # Well-formed data

Data that a machine holds is bounded: whole numbers have at most 64 bits, other numbers are finite, texts
fit into memory, and no object names a key twice. The value of such a tree is well-formed in the same
sense (`Value.wellFormed_ofJson`), what is taken out of it is well-formed again
(`Value.inherited_wellFormed`), and a well-formed value is portable. -/

namespace Destructure

/-- How many bytes there can be in memory. -/
def memoryBound : Nat := Nat.pow 2 64

/-- A data tree as it is held in memory. -/
inductive Json.WellFormed : Json → Prop
  | null : WellFormed .null
  | bool (b : Bool) : WellFormed (.bool b)
  /-- Whole numbers have 64 bits, with a sign or without. -/
  | int {n : Int} (hlow : -(Nat.pow 2 63 : Nat) ≤ n) (hhigh : n < (Nat.pow 2 64 : Nat)) :
    WellFormed (.int n)
  | float {x : Number} (h : x.isFinite) : WellFormed (.float x)
  | text {s : String} (h : s.utf8ByteSize < memoryBound) : WellFormed (.text s)
  | array {items : List Json} (h : ∀ item ∈ items, WellFormed item) : WellFormed (.array items)
  | object {entries : List (String × Json)} (hkeys : (Entries.keys entries).Nodup)
    (h : ∀ entry ∈ entries, WellFormed entry.2) : WellFormed (.object entries)

namespace Value

/-- A value as it comes from a data tree in memory. -/
inductive WellFormed : Value → Prop
  | null : WellFormed .null
  | bool (b : Bool) : WellFormed (.bool b)
  | number {x : Number} (h : x.isFinite) : WellFormed (.number x)
  | text {s : String} (h : s.utf8ByteSize < memoryBound) : WellFormed (.text s)
  | sequence {items : List Value} (h : ∀ item ∈ items, WellFormed item) : WellFormed (.sequence items)
  | mapping {entries : List (String × Value)} (hkeys : (Entries.keys entries).Nodup)
    (h : ∀ entry ∈ entries, WellFormed entry.2) : WellFormed (.mapping entries)

theorem wellFormed_ofJson {tree : Json} (h : tree.WellFormed) : (ofJson tree).WellFormed := by
  induction h with
  | null => exact .null
  | bool b => exact .bool b
  | int hlow hhigh =>
    refine .number (Number.isFinite_ofInt ?_)
    have hsign : Nat.pow 2 63 < Nat.pow 2 64 := by decide
    omega
  | float h => exact .number h
  | text h => exact .text h
  | array _ ih =>
    rw [ofJson, ofItems_eq_map]
    exact .sequence (List.forall_mem_map.2 ih)
  | object hkeys _ ih =>
    rw [ofJson, ofFields_eq_map]
    refine .mapping ?_ (List.forall_mem_map.2 ih)
    rw [Entries.keys, List.map_map]
    exact hkeys

theorem WellFormed.portable {v : Value} (h : v.WellFormed) : v.Portable := by
  induction h with
  | null => exact portable_leaf .null (by simp) rfl
  | bool b => exact portable_leaf (.bool b) (by simp) rfl
  | number h => exact portable_number_iff.2 h
  | text h => exact portable_leaf (.text _) (by simp) rfl
  | sequence _ ih => exact portable_sequence_iff.2 ih
  | mapping _ _ ih => exact portable_mapping_iff.2 ih

theorem WellFormed.distinctKeys {v : Value} (h : v.WellFormed) : v.DistinctKeys := by
  induction h with
  | null => exact .null
  | bool b => exact .bool b
  | number h => exact .number _
  | text h => exact .text _
  | sequence _ ih => exact .sequence ih
  | mapping hkeys _ ih => exact .mapping hkeys ih

/-- What is taken out of a well-formed value is well-formed. -/
theorem inherited_wellFormed : Inherited WellFormed where
  items h := by
    cases h with
    | sequence h => exact h
  drop h n := by
    cases h with
    | sequence h => exact .sequence fun item hitem => h item (List.mem_of_mem_drop hitem)
  entries h := by
    cases h with
    | mapping _ h => exact h
  filter h keep := by
    cases h with
    | mapping hkeys h =>
      refine .mapping ?_ fun entry hentry => h entry (List.mem_of_mem_filter hentry)
      exact hkeys.sublist (List.filter_sublist.map _)

end Value

end Destructure
