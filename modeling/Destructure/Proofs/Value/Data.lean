import Destructure.Regex.Engine
import Destructure.Value.Plain

set_option autoImplicit false

/-! # Values that are data

Data trees have no way to write a function or a domain object, so the value of a data tree holds none
at any depth (`Value.isData_ofJson`). Taking data apart, also with a regular expression, gives data
again. -/

namespace Destructure

/-- The value holds no function and no domain object, at any depth. -/
inductive Value.IsData : Value → Prop
  | null : IsData .null
  | bool (b : Bool) : IsData (.bool b)
  | number (x : Number) : IsData (.number x)
  | text (s : String) : IsData (.text s)
  | sequence {items : List Value} (h : ∀ item ∈ items, IsData item) : IsData (.sequence items)
  | mapping {entries : List (String × Value)} (h : ∀ entry ∈ entries, IsData entry.2) :
    IsData (.mapping entries)

namespace Value

theorem IsData.items {items : List Value} (h : IsData (.sequence items)) :
    ∀ item ∈ items, IsData item := by
  cases h with
  | sequence h => exact h

theorem IsData.entries {entries : List (String × Value)} (h : IsData (.mapping entries)) :
    ∀ entry ∈ entries, IsData entry.2 := by
  cases h with
  | mapping h => exact h

mutual

/-- The value of a data tree is data. -/
theorem isData_ofJson (tree : Json) : (ofJson tree).IsData := by
  cases tree with
  | null => exact .null
  | bool b => exact .bool b
  | int n => exact .number _
  | float x => exact .number x
  | text s => exact .text s
  | array items => exact .sequence (isData_ofItems items)
  | object entries => exact .mapping (isData_ofFields entries)

theorem isData_ofItems (items : List Json) : ∀ item ∈ ofItems items, item.IsData := by
  cases items with
  | nil => simp [ofItems]
  | cons item rest =>
    rw [ofItems, List.forall_mem_cons]
    exact ⟨isData_ofJson item, isData_ofItems rest⟩

theorem isData_ofFields (entries : List (String × Json)) :
    ∀ entry ∈ ofFields entries, entry.2.IsData := by
  cases entries with
  | nil => simp [ofFields]
  | cons entry rest =>
    obtain ⟨key, value⟩ := entry
    rw [ofFields, List.forall_mem_cons]
    exact ⟨isData_ofJson value, isData_ofFields rest⟩

end

end Value

/-! ## Captures -/

namespace Regex

theorem isData_groupValue (group : Option String) : (groupValue group).IsData := by
  cases group with
  | none => exact .null
  | some s => exact .text s

namespace Captures

variable (captures : Captures)

theorem forall_groups {P : Value → Prop} (h : ∀ group ∈ captures.positional, P (groupValue group)) :
    ∀ group ∈ captures.groups, P group :=
  List.forall_mem_map.2 h

/-- A record is put together from groups and a position by two mappings and a sequence. -/
theorem record_closed {P : Value → Prop} {R : List String → Prop}
    (hsequence : ∀ {items : List Value}, (∀ item ∈ items, P item) → P (.sequence items))
    (hmapping : ∀ {entries : List (String × Value)}, R (Entries.keys entries) →
      (∀ entry ∈ entries, P entry.2) → P (.mapping entries))
    (hmatch : P (groupValue captures.positional.head?.join))
    (hindex : P (.number (Number.ofNat captures.index)))
    (hpositional : ∀ group ∈ captures.positional, P (groupValue group))
    (hnamed : ∀ entry ∈ captures.named, P (groupValue entry.2))
    (hkeys : R ["match", "index", "groups", "named"]) (hnames : R (Entries.keys captures.named)) :
    P captures.record := by
  refine hmapping hkeys ?_
  simp only [List.forall_mem_cons, List.not_mem_nil, false_imp_iff, implies_true, and_true]
  refine ⟨hmatch, hindex, hsequence fun group hgroup => ?_, hmapping ?_ ?_⟩
  · exact captures.forall_groups hpositional group (List.mem_of_mem_drop hgroup)
  · rw [Entries.keys, List.map_map]
    exact hnames
  · exact List.forall_mem_map.2 hnamed

theorem isData_groups : ∀ group ∈ captures.groups, group.IsData :=
  captures.forall_groups fun group _ => isData_groupValue group

theorem isData_record : captures.record.IsData :=
  captures.record_closed (R := fun _ => True) .sequence (fun _ => .mapping) (isData_groupValue _)
    (.number _) (fun group _ => isData_groupValue group) (fun entry _ => isData_groupValue entry.2)
    trivial trivial

end Captures

end Regex

end Destructure
