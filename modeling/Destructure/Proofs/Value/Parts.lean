import Destructure.Value.Basic
import Mathlib.Logic.Relation

set_option autoImplicit false

/-! # The parts of a value

A value holds itself, and what its parts hold: the items of a sequence and the values of a mapping. What
an object holds is not a part of it. -/

namespace Destructure.Value

/-- The items of a sequence and the values of the entries of a mapping; other values have no parts. -/
def parts : Value → List Value
  | .sequence items => items
  | .mapping entries => entries.map (·.2)
  | _ => []

/-- The second value is reached from the first one through sequences and mappings only. -/
def Holds (a b : Value) : Prop := Relation.ReflTransGen (fun a b => b ∈ a.parts) a b

theorem holds_iff {a b : Value} : a.Holds b ↔ a = b ∨ ∃ part ∈ a.parts, part.Holds b := by
  rw [Holds, Relation.ReflTransGen.cases_head_iff]
  exact Iff.rfl

/-- A number holds no other number. -/
theorem forall_held_number {P : Number → Prop} {x : Number} :
    (∀ y, (number x).Holds (number y) → P y) ↔ P x := by
  constructor
  · exact fun h => h x .refl
  · intro hx y hy
    obtain hy | ⟨part, hpart, -⟩ := holds_iff.1 hy
    · obtain rfl := number.inj hy
      exact hx
    · cases hpart

/-- The numbers that any other value holds are held by its parts. -/
theorem forall_held_iff {P : Number → Prop} {a : Value} (ha : ∀ x, a ≠ number x) :
    (∀ x, a.Holds (number x) → P x) ↔ ∀ part ∈ a.parts, ∀ x, part.Holds (number x) → P x := by
  constructor
  · exact fun h part hpart x hx => h x (holds_iff.2 (.inr ⟨part, hpart, hx⟩))
  · intro h x hx
    obtain rfl | ⟨part, hpart, hx⟩ := holds_iff.1 hx
    · exact absurd rfl (ha x)
    · exact h part hpart x hx

theorem sizeOf_lt_of_mem_parts {a b : Value} (h : b ∈ a.parts) : sizeOf b < sizeOf a := by
  cases a with
  | sequence items =>
    have hlt := List.sizeOf_lt_of_mem (show b ∈ items from h)
    simp only [sequence.sizeOf_spec]
    omega
  | mapping entries =>
    obtain ⟨⟨key, b⟩, hentry, rfl⟩ := List.mem_map.1 (show b ∈ entries.map (·.2) from h)
    have hlt := List.sizeOf_lt_of_mem hentry
    simp only [mapping.sizeOf_spec, Prod.mk.sizeOf_spec] at hlt ⊢
    omega
  | _ => cases h

/-- What holds of a value as soon as it holds of its parts holds of every value. -/
@[elab_as_elim]
theorem partsInduction {motive : Value → Prop}
    (node : ∀ a : Value, (∀ b ∈ a.parts, motive b) → motive a) (a : Value) : motive a :=
  node a fun b _ => partsInduction node b
termination_by sizeOf a
decreasing_by exact sizeOf_lt_of_mem_parts ‹_›

end Destructure.Value
