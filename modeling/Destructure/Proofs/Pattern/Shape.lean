import Mathlib.Data.Finset.Basic
import Mathlib.Logic.Relation
import Destructure.Proofs.Pattern.Tree

set_option autoImplicit false

/-! # The structures that a pattern demands

A shape is folded from the shapes of members, one by one. What it stands for is a set: the kinds of the
sequences and mappings that are reached through alternations and conjunctions
(`Pattern.demanded`). Joining shapes is taking the union of such sets (`Shape.kinds_join`), so a shape
forgets order, repetition and nesting, and nothing else (`Pattern.demanded_eq`,
`Pattern.shape_eq_iff`). -/

namespace Destructure

/-! ## Shapes as sets -/

namespace Shape

/-- The structures that a shape demands. -/
def kinds : Shape → Finset Kind
  | .any => ∅
  | .sequence => {.sequence}
  | .mapping => {.mapping}
  | .mixed => {.sequence, .mapping}

theorem kinds_join (a b : Shape) : (a.join b).kinds = a.kinds ∪ b.kinds := by
  cases a <;> cases b <;> decide

/-- Different shapes demand different structures. -/
theorem kinds_injective : Function.Injective kinds := by
  intro a b
  cases a <;> cases b <;> decide

theorem join_assoc (a b c : Shape) : (a.join b).join c = a.join (b.join c) :=
  kinds_injective (by simp only [kinds_join, Finset.union_assoc])

@[simp] theorem any_join (s : Shape) : any.join s = s := by cases s <;> rfl

@[simp] theorem join_any (s : Shape) : s.join any = s := by cases s <;> rfl

end Shape

namespace Pattern

theorem shapes_append (ps qs : List Pattern) : shapes (ps ++ qs) = (shapes ps).join (shapes qs) := by
  induction ps with
  | nil => rw [List.nil_append, shapes, Shape.any_join]
  | cons p ps ih => rw [List.cons_append, shapes, shapes, ih, Shape.join_assoc]

@[simp] theorem shapes_singleton (p : Pattern) : shapes [p] = p.shape := by
  rw [shapes, shapes, Shape.join_any]

theorem mem_kinds_shapes {ps : List Pattern} {kind : Kind} :
    kind ∈ (shapes ps).kinds ↔ ∃ p ∈ ps, kind ∈ p.shape.kinds := by
  induction ps with
  | nil => simp [shapes, Shape.kinds]
  | cons p ps ih =>
    rw [shapes, Shape.kinds_join, Finset.mem_union, ih]
    simp

/-! ## Nodes that are reached -/

/-- The patterns that a node tries on its own subject: branches or members. -/
def members : Pattern → List Pattern
  | .alternation branches => branches
  | .conjunction members => members
  | _ => []

/-- The node is reached through alternations and conjunctions only. -/
def Reaches (p q : Pattern) : Prop := Relation.ReflTransGen (fun a b => b ∈ a.members) p q

theorem reaches_iff {p q : Pattern} : p.Reaches q ↔ p = q ∨ ∃ m ∈ p.members, m.Reaches q := by
  rw [Reaches, Relation.ReflTransGen.cases_head_iff]
  exact Iff.rfl

/-- A node without members is reached from another node through one of its members. -/
theorem reaches_leaf_iff {p leaf : Pattern} (hp : p.members ≠ []) (hleaf : leaf.members = []) :
    p.Reaches leaf ↔ ∃ m ∈ p.members, m.Reaches leaf := by
  rw [reaches_iff, or_iff_right]
  rintro rfl
  exact hp hleaf

/-- The structure that a node takes a value apart into by itself. -/
def structure? : Pattern → Option Kind
  | .sequence _ _ => some .sequence
  | .mapping _ _ => some .mapping
  | _ => none

/-- The structures that a pattern demands: the kinds of the sequences and mappings that it reaches. -/
def demanded (p : Pattern) : Set Kind := {kind | ∃ q, p.Reaches q ∧ q.structure? = some kind}

/-- A pattern demands the structure of its root and those that its members demand. -/
theorem mem_demanded_iff {p : Pattern} {kind : Kind} :
    kind ∈ p.demanded ↔ p.structure? = some kind ∨ ∃ m ∈ p.members, kind ∈ m.demanded := by
  simp only [demanded, Set.mem_ofPred_eq]
  constructor
  · rintro ⟨q, hq, hkind⟩
    rcases reaches_iff.1 hq with rfl | ⟨m, hm, hmq⟩
    · exact .inl hkind
    · exact .inr ⟨m, hm, q, hmq, hkind⟩
  · rintro (hkind | ⟨m, hm, q, hmq, hkind⟩)
    · exact ⟨p, reaches_iff.2 (.inl rfl), hkind⟩
    · exact ⟨q, reaches_iff.2 (.inr ⟨m, hm, hmq⟩), hkind⟩

theorem mem_demanded_iff_mem_kinds {p : Pattern} {kind : Kind} :
    kind ∈ p.demanded ↔ kind ∈ p.shape.kinds := by
  induction p using partsInduction with
  | node p ih =>
    rw [mem_demanded_iff]
    cases p with
    | alternation ps | conjunction ps =>
      have hps : ∀ m ∈ ps, (kind ∈ m.demanded ↔ kind ∈ m.shape.kinds) :=
        fun m hm => ih m (by simpa using hm)
      rw [shape, mem_kinds_shapes]
      simpa [structure?, members] using exists_congr fun m => and_congr_right (hps m)
    | _ => simp [structure?, members, shape, Shape.kinds, eq_comm]

/-- The structures that a pattern demands are those of its shape. -/
theorem demanded_eq (p : Pattern) : p.demanded = p.shape.kinds :=
  Set.ext fun _ => mem_demanded_iff_mem_kinds

/-- A shape says which structures are demanded, no more and no less. -/
theorem shape_eq_iff {p q : Pattern} : p.shape = q.shape ↔ p.demanded = q.demanded := by
  rw [demanded_eq, demanded_eq, Finset.coe_inj, Shape.kinds_injective.eq_iff]

/-- Which nodes without members are reached decides what is demanded. -/
theorem demanded_congr {p q : Pattern}
    (h : ∀ leaf, leaf.members = [] → (p.Reaches leaf ↔ q.Reaches leaf)) :
    p.demanded = q.demanded := by
  ext kind
  refine exists_congr fun leaf => and_congr_left fun hkind => h leaf ?_
  cases leaf with
  | alternation ps | conjunction ps => cases hkind
  | _ => rfl

end Pattern

end Destructure
