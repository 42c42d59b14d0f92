import Destructure.Proofs.Pattern.Analysis
import Destructure.Proofs.Pattern.Shape

set_option autoImplicit false

/-! # Nodes with one child left out

A `Pattern.Frame` is a node without one of its children, and `Frame.fill` puts a pattern there. What
the check of a pattern knows of a node does not depend on the pattern in the frame but for the names
that this declares and for its height, and the shape of a node depends on the shape of it. So a part
can be replaced by another one of the same names without spoiling the node (`Frame.tidy_fill`). -/

namespace Destructure.Pattern

/-- A node with one child left out. -/
inductive Frame where
  | element (before after : List (Option Pattern)) (rest : Option String)
  | field (before after : List (String × Pattern)) (key : String) (rest : Option String)
  | branch (before after : List Pattern)
  | member (before after : List Pattern)
  | extractor (source : Extractor)
  | regex (engine : Regex.Engine)

namespace Frame

/-- The node with this child. -/
def fill : Frame → Pattern → Pattern
  | .element before after rest, p => .sequence (before ++ some p :: after) rest
  | .field before after key rest, p => .mapping (before ++ (key, p) :: after) rest
  | .branch before after, p => .alternation (before ++ p :: after)
  | .member before after, p => .conjunction (before ++ p :: after)
  | .extractor source, p => .extractor source (some p)
  | .regex engine, p => .regex engine (some p)

/-- The number of the child that is left out. -/
def index : Frame → Nat
  | .element before _ _ => before.length
  | .field before _ _ _ => before.length
  | .branch before _ => before.length
  | .member before _ => before.length
  | .extractor _ => 0
  | .regex _ => 0

/-- The parts before the child that is left out. -/
def before : Frame → List Pattern
  | .element before _ _ => before.reduceOption
  | .field before _ _ _ => before.map (·.2)
  | .branch before _ => before
  | .member before _ => before
  | .extractor _ => []
  | .regex _ => []

/-- The parts behind the child that is left out. -/
def after : Frame → List Pattern
  | .element _ after _ => after.reduceOption
  | .field _ after _ _ => after.map (·.2)
  | .branch _ after => after
  | .member _ after => after
  | .extractor _ => []
  | .regex _ => []

variable (f : Frame)

/-! ## The filled node as a tree -/

theorem parts_fill (p : Pattern) : (f.fill p).parts = f.before ++ p :: f.after := by
  cases f with
  | element before after rest =>
    rw [fill, parts_sequence, List.reduceOption_append, List.reduceOption_cons_of_some]
    rfl
  | _ => simp [fill, before, after]

theorem getElem?_children_fill (p : Pattern) : (f.fill p).children[f.index]? = some (some p) := by
  cases f <;> simp [fill, index, children]

/-- Below the child the filled node is what the child is. -/
theorem node?_fill (p : Pattern) (s : Site) : (f.fill p).node? (f.index :: s) = p.node? s := by
  rw [node?, getElem?_children_fill]
  rfl

theorem length_children_fill (p q : Pattern) :
    (f.fill p).children.length = (f.fill q).children.length := by
  cases f <;> simp [fill, children]

theorem keys_fill (p q : Pattern) : (f.fill p).keys = (f.fill q).keys := by
  cases f <;> simp [fill, keys]

theorem fill_ne_alternation_nil (p : Pattern) : f.fill p ≠ alternation [] := by
  cases f <;> simp [fill]

theorem fill_ne_conjunction_nil (p : Pattern) : f.fill p ≠ conjunction [] := by
  cases f <;> simp [fill]

theorem everywhere_fill {P : Pattern → Prop} {p : Pattern} :
    (f.fill p).Everywhere P ↔
      P (f.fill p) ∧ p.Everywhere P ∧ ∀ q ∈ f.before ++ f.after, q.Everywhere P := by
  rw [everywhere_iff, parts_fill, List.forall_mem_append, List.forall_mem_cons,
    List.forall_mem_append]
  tauto

variable {p q : Pattern}

/-! ## What depends on the child -/

theorem height_fill_le (h : q.height ≤ p.height) : (f.fill q).height ≤ (f.fill p).height := by
  rw [height_eq, height_eq, parts_fill, parts_fill, Nat.succ_le_succ_iff, maxHeight_le_iff]
  have hparts := maxHeight_le_iff.1 (le_refl (maxHeight (f.before ++ p :: f.after)))
  intro r hr
  rcases List.mem_append.1 hr with hr | hr
  · exact hparts r (List.mem_append_left _ hr)
  · rcases List.mem_cons.1 hr with rfl | hr
    · exact h.trans (hparts p (by simp))
    · exact hparts r (List.mem_append_right _ (List.mem_cons_of_mem p hr))

theorem shape_fill (h : q.shape = p.shape) : (f.fill q).shape = (f.fill p).shape := by
  cases f <;> simp [fill, shape, shapes_append, shapes, h]

theorem declared_fill (h : q.declared = p.declared) : (f.fill q).declared = (f.fill p).declared := by
  cases f with
  | element before after rest =>
    simp [fill, List.reduceOption_append, List.reduceOption_cons_of_some, h]
  | field before after key rest => simp [fill, h]
  | branch before after =>
    cases before with
    | nil => simpa [fill] using h
    | cons first before => simp [fill]
  | member before after => simp [fill, h]
  | extractor source => simpa [fill] using h
  | regex engine => simpa [fill] using h

theorem declared_fill_perm (h : q.declared.Perm p.declared) :
    (f.fill q).declared.Perm (f.fill p).declared := by
  cases f with
  | branch before after =>
    cases before with
    | nil => simpa [fill] using h
    | cons first before => simp [fill]
  | _ =>
    rw [declared_of_ne_alternation (by simp [fill]), declared_of_ne_alternation (by simp [fill]),
      parts_fill, parts_fill]
    simp only [List.flatMap_append, List.flatMap_cons]
    exact (((h.append_right _).append_left _).append_right _)

/-- A node stays as the check demands when a child is replaced that declares the same names. -/
theorem tidy_fill (hdeclared : q.declared.Perm p.declared) (h : (f.fill p).Tidy) :
    (f.fill q).Tidy where
  declared_nodup := (f.declared_fill_perm hdeclared).nodup_iff.2 h.declared_nodup
  branches_perm := by
    have hfill := f.declared_fill_perm hdeclared
    have hperm := h.branches_perm
    cases f with
    | branch before after =>
      simp only [fill, branches, List.forall_mem_append, List.forall_mem_cons] at hperm hfill ⊢
      exact ⟨fun b hb => (hperm.1 b hb).trans hfill.symm,
        hdeclared.trans (hperm.2.1.trans hfill.symm),
        fun b hb => (hperm.2.2 b hb).trans hfill.symm⟩
    | _ => simp [fill, branches]
  ne_alternation := f.fill_ne_alternation_nil q
  ne_conjunction := f.fill_ne_conjunction_nil q
  keys_nodup := f.keys_fill p q ▸ h.keys_nodup

theorem narrow_fill (h : (f.fill p).Narrow) : (f.fill q).Narrow := by
  rw [Narrow, f.length_children_fill q p]
  exact h

end Frame

end Destructure.Pattern
