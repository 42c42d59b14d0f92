import Destructure.Proofs.Pattern.Rejection

set_option autoImplicit false

/-! # The limits on the size of a pattern

A pattern may be neither too deep nor too wide. Whether it is can be said of the tree alone
(`Pattern.Oversized`), and the check of a pattern complains about the size only of patterns that are
(`Pattern.InBounds.analyze_not_isLimit`): the failures of that kind come from the level and the
number of children of a node, and from nowhere else. -/

namespace Destructure

/-- The failure is about the size of a tree. -/
def PatternError.isLimit : PatternError → Bool
  | .depthExceeded _ _ => true
  | .tooManyBranches _ _ => true
  | _ => false

namespace Pattern

/-- A node lies below the deepest level, or has more children than a node may have. The root is at
level 1. -/
def Oversized (p : Pattern) : Prop :=
  ∃ site q, p.node? site = some q ∧ (maxDepth < site.length + 1 ∨ maxBranches < q.children.length)

/-- The pattern keeps within the limits when its root is at that level. -/
def InBounds (p : Pattern) (level : Nat) : Prop :=
  level + p.height ≤ maxDepth + 1 ∧ p.Everywhere fun q => q.children.length ≤ maxBranches

/-- A pattern keeps within the limits when its root does and its parts do one level below. -/
theorem inBounds_iff {p : Pattern} {level : Nat} :
    p.InBounds level ↔ level ≤ maxDepth ∧ p.children.length ≤ maxBranches ∧
      ∀ q ∈ p.parts, q.InBounds (level + 1) := by
  rw [InBounds, level_add_height_le_iff, everywhere_iff]
  constructor
  · rintro ⟨⟨hlevel, hheight⟩, hroot, hparts⟩
    exact ⟨hlevel, hroot, fun q hq => ⟨hheight q hq, hparts q hq⟩⟩
  · rintro ⟨hlevel, hroot, hparts⟩
    exact ⟨⟨hlevel, fun q hq => (hparts q hq).1⟩, hroot, fun q hq => (hparts q hq).2⟩

theorem inBounds_one_iff {p : Pattern} : p.InBounds 1 ↔ ¬ p.Oversized := by
  have hheight : 1 + p.height ≤ maxDepth + 1 ↔ p.height ≤ maxDepth := by omega
  rw [InBounds, hheight, height_le_iff]
  constructor
  · rintro ⟨hshallow, hnarrow⟩ ⟨site, q, hq, hdeep | hwide⟩
    · exact absurd (hshallow site q hq) (Nat.not_le_of_lt hdeep)
    · exact absurd (hnarrow site q hq) (Nat.not_le_of_lt hwide)
  · intro h
    constructor
    · intro site q hq
      by_contra hdeep
      exact h ⟨site, q, hq, .inl (Nat.lt_of_not_le hdeep)⟩
    · intro site q hq
      by_contra hwide
      exact h ⟨site, q, hq, .inr (Nat.lt_of_not_le hwide)⟩

/-- A pattern that is accepted keeps within the limits. -/
theorem Fits.inBounds {p : Pattern} {level : Nat} (h : p.Fits level) : p.InBounds level :=
  ⟨h.1, h.2.mono fun _ hq => hq.narrow⟩

/-! ## Failures of the size -/

variable {e : PatternError} {level : Nat}

/-- What a failure for the size can be about: the level of the node, the number of its children, or
one of its parts. -/
def LimitAt (p : Pattern) (level : Nat) (e : PatternError) : Prop :=
  (maxDepth < level ∧ e = .depthExceeded level maxDepth) ∨
  (maxBranches < p.children.length ∧ e = .tooManyBranches p.children.length maxBranches) ∨
  ∃ q ∈ p.parts, q.analyze (level + 1) = .error e

/-- A failure of the check for the size comes from a node that is too deep or too wide. -/
theorem limitAt_of_analyze {p : Pattern} (he : e.isLimit) (h : p.analyze level = .error e) :
    p.LimitAt level e := by
  rcases analyze_eq_error h with hdeep | ⟨-, hfault | hpart⟩
  · exact .inl hdeep
  · -- of the faults of a node, only its width is about the size
    cases hfault with
    | wide hwide => exact .inr (.inl ⟨hwide, rfl⟩)
    | _ => cases he
  · exact .inr (.inr hpart)

/-- The check of a pattern within the limits may fail, but not for its size. -/
theorem InBounds.analyze_not_isLimit {p : Pattern} (hp : p.InBounds level)
    (h : p.analyze level = .error e) : ¬ e.isLimit := by
  intro he
  induction p using partsInduction generalizing level with
  | node p ih =>
    obtain ⟨hlevel, hwidth, hparts⟩ := inBounds_iff.1 hp
    rcases limitAt_of_analyze he h with ⟨hdeep, -⟩ | ⟨hwide, -⟩ | ⟨q, hq, h⟩
    · omega
    · omega
    · exact ih q hq (hparts q hq) h

/-- Compiling rejects a pattern for its size only if it is too large. -/
theorem oversized_of_compile {p : Pattern} (he : e.isLimit) (h : p.compile = .error e) :
    p.Oversized := by
  by_contra hp
  exact (inBounds_one_iff.2 hp).analyze_not_isLimit (compile_eq_error.1 h) he

/-- A pattern that compiles is not too large. -/
theorem not_oversized_of_compile {p : Pattern} (h : ∃ c, p.compile = .ok c) : ¬ p.Oversized :=
  inBounds_one_iff.1 (exists_compile_iff.1 h).inBounds

end Pattern

end Destructure
