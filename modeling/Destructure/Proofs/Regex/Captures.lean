import Destructure.Matching.Basic
import Destructure.Proofs.Number.Integers
import Destructure.Proofs.Value.Data
import Destructure.Proofs.Value.Equality

set_option autoImplicit false

/-! # What a regular expression captures

Both views of a match are made of texts, nulls and one position. A position is no NaN, and no group is
named twice, so the views equal themselves (`Regex.Captures.regular_record`). -/

namespace Destructure

/-! ## Views of a match -/

namespace Regex

open Value

theorem regular_groupValue (group : Option String) : (groupValue group).Regular := by
  cases group with
  | none => exact ⟨.null, by simp [groupValue, equals]⟩
  | some s => exact ⟨.text s, by simp [groupValue, equals]⟩

namespace Captures

variable (captures : Captures)

theorem regular_groups : ∀ group ∈ captures.groups, group.Regular :=
  captures.forall_groups fun group _ => regular_groupValue group

/-- The record of a match equals itself. -/
theorem regular_record : captures.record.Regular := by
  have hindex : (Value.number (Number.ofNat captures.index)).Regular :=
    ⟨.number _, by rw [equals]; exact Number.equals_self_ofNat captures.index⟩
  exact captures.record_closed regular_sequence regular_mapping (regular_groupValue _) hindex
    (fun group _ => regular_groupValue group) (fun entry _ => regular_groupValue entry.2)
    (by decide) captures.namesOnce

end Captures

/-- A match is one of a text, and its captures are reported in both views. -/
theorem Engine.extract_of_matched {engine : Engine} {subject : Value}
    (h : (engine.extract subject).matched) :
    ∃ s captures, subject = .text s ∧ engine.execute s = some captures ∧
      engine.extract subject = ⟨true, some captures.record, some (.sequence captures.groups)⟩ := by
  cases subject with
  | text s =>
    rw [extract] at h ⊢
    cases hexecute : engine.execute s with
    | none =>
      rw [hexecute] at h
      cases h
    | some captures => exact ⟨s, captures, rfl, hexecute, rfl⟩
  | _ => cases h

/-- Every pattern finds something to take apart in a match, and that equals itself. -/
theorem Engine.target_of_matched {engine : Engine} {subject : Value}
    (h : (engine.extract subject).matched) (shape : Shape) :
    ∃ target, (engine.extract subject).target shape = .ok target ∧ target.Regular ∧
      target.IsData := by
  obtain ⟨s, captures, -, -, hextract⟩ := extract_of_matched h
  rw [hextract]
  cases shape with
  | sequence =>
    exact ⟨.sequence captures.groups, rfl, regular_sequence captures.regular_groups,
      .sequence captures.isData_groups⟩
  | _ => exact ⟨captures.record, rfl, captures.regular_record, captures.isData_record⟩

end Regex

end Destructure
