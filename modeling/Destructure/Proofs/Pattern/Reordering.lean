import Mathlib.Data.List.Perm.Basic
import Destructure.Proofs.Pattern.Frame

set_option autoImplicit false

/-! # Other orders

The fields of a mapping and the members of a conjunction must all match, whatever their order.
`Pattern.Reorders` puts those of one node in another order, at any site, and `Pattern.Reordered` does so
any number of times. The declared names come in another order then, but they are the same ones, and
nothing else that the check of a pattern looks at changes: a reordered pattern is accepted if the
pattern is (`Pattern.Reordered.fits`). -/

namespace Destructure.Pattern

/-- The second pattern is the first one with the fields of a mapping, or the members of a conjunction,
in another order. -/
inductive Reorders : Pattern → Pattern → Prop
  | fields {fields others : List (String × Pattern)} (h : fields.Perm others)
      (rest : Option String) : Reorders (.mapping fields rest) (.mapping others rest)
  | members {members others : List Pattern} (h : members.Perm others) :
      Reorders (.conjunction members) (.conjunction others)
  | inside {p q : Pattern} (f : Frame) (h : Reorders p q) : Reorders (f.fill p) (f.fill q)

/-- The shape of members does not depend on their order. -/
theorem shapes_perm {ps qs : List Pattern} (h : ps.Perm qs) : shapes ps = shapes qs := by
  refine Shape.kinds_injective (Finset.ext fun kind => ?_)
  rw [mem_kinds_shapes, mem_kinds_shapes]
  exact exists_congr fun p => and_congr_left fun _ => h.mem_iff

theorem maxHeight_perm {ps qs : List Pattern} (h : ps.Perm qs) : maxHeight ps = maxHeight qs := by
  refine le_antisymm (maxHeight_le_iff.2 fun p hp => ?_) (maxHeight_le_iff.2 fun q hq => ?_)
  · exact maxHeight_le_iff.1 (le_refl _) p (h.mem_iff.1 hp)
  · exact maxHeight_le_iff.1 (le_refl _) q (h.mem_iff.2 hq)

namespace Reorders

variable {p q : Pattern}

theorem symm (h : p.Reorders q) : q.Reorders p := by
  induction h with
  | fields h rest => exact .fields h.symm rest
  | members h => exact .members h.symm
  | inside f _ ih => exact .inside f ih

theorem shape_eq (h : p.Reorders q) : q.shape = p.shape := by
  induction h with
  | fields h rest => rfl
  | members h => rw [shape, shape, shapes_perm h]
  | inside f _ ih => exact f.shape_fill ih

theorem height_le (h : p.Reorders q) : q.height ≤ p.height := by
  induction h with
  | fields h rest =>
    rw [height_eq, height_eq, parts_mapping, parts_mapping, maxHeight_perm (h.map _)]
  | members h =>
    rw [height_eq, height_eq, parts_conjunction, parts_conjunction, maxHeight_perm h]
  | inside f _ ih => exact f.height_fill_le ih

theorem declared_perm (h : p.Reorders q) : q.declared.Perm p.declared := by
  induction h with
  | fields h rest =>
    rw [declared_mapping, declared_mapping]
    exact ((h.symm.map _).flatMap_right _).append_right _
  | members h =>
    rw [declared_conjunction, declared_conjunction]
    exact h.symm.flatMap_right _
  | inside f _ ih => exact f.declared_fill_perm ih

/-- A node stays as the check demands. -/
theorem coherent (h : p.Reorders q) (hp : p.Coherent) : q.Coherent := by
  have hnodup : q.declared.Nodup := h.declared_perm.nodup_iff.2 hp.declared_nodup
  cases h with
  | fields h rest =>
    exact {
      declared_nodup := hnodup
      branches_perm := by simp [branches]
      narrow := by simpa [children, h.length_eq] using hp.narrow
      ne_alternation := by simp
      ne_conjunction := by simp
      keys_nodup := (h.map Prod.fst).nodup_iff.1 hp.keys_nodup }
  | members h =>
    have hne := hp.ne_conjunction
    exact {
      declared_nodup := hnodup
      branches_perm := by simp [branches]
      narrow := by simpa [children, h.length_eq] using hp.narrow
      ne_alternation := by simp
      ne_conjunction := by
        rintro he
        obtain rfl := conjunction.inj he
        exact hne (congrArg conjunction h.eq_nil)
      keys_nodup := List.nodup_nil }
  | inside f h =>
    obtain ⟨htidy, hnarrow⟩ := coherent_iff.1 hp
    exact coherent_iff.2 ⟨f.tidy_fill h.declared_perm htidy, f.narrow_fill hnarrow⟩

/-- A condition on nodes that a node keeps in another order is kept everywhere. -/
theorem everywhere {P : Pattern → Prop} (hP : ∀ {p q : Pattern}, p.Reorders q → P p → P q)
    (h : p.Reorders q) (hp : p.Everywhere P) : q.Everywhere P := by
  induction h with
  | fields h rest =>
    obtain ⟨hroot, hparts⟩ := everywhere_iff.1 hp
    refine everywhere_iff.2 ⟨hP (.fields h rest) hroot, fun r hr => hparts r ?_⟩
    rw [parts_mapping] at hr ⊢
    exact (h.map _).mem_iff.2 hr
  | members h =>
    obtain ⟨hroot, hparts⟩ := everywhere_iff.1 hp
    refine everywhere_iff.2 ⟨hP (.members h) hroot, fun r hr => hparts r ?_⟩
    rw [parts_conjunction] at hr ⊢
    exact h.mem_iff.2 hr
  | inside f h ih =>
    obtain ⟨hroot, hchild, hsiblings⟩ := f.everywhere_fill.1 hp
    exact f.everywhere_fill.2 ⟨hP (.inside f h) hroot, ih hchild, hsiblings⟩

end Reorders

/-! ## Any number of nodes -/

/-- The second pattern is the first one with the fields of some mappings and the members of some
conjunctions in another order. -/
def Reordered (p q : Pattern) : Prop := Relation.ReflTransGen Reorders p q

namespace Reordered

variable {p q : Pattern}

theorem declared_perm (h : p.Reordered q) : q.declared.Perm p.declared := by
  induction h with
  | refl => exact .refl _
  | tail _ hstep ih => exact hstep.declared_perm.trans ih

theorem height_eq (h : p.Reordered q) : q.height = p.height := by
  induction h with
  | refl => rfl
  | tail _ hstep ih => exact (le_antisymm hstep.height_le hstep.symm.height_le).trans ih

theorem everywhere {P : Pattern → Prop} (hP : ∀ {p q : Pattern}, p.Reorders q → P p → P q)
    (h : p.Reordered q) (hp : p.Everywhere P) : q.Everywhere P := by
  induction h with
  | refl => exact hp
  | tail _ hstep ih => exact hstep.everywhere hP ih

/-- A reordered pattern is accepted if the pattern is. -/
theorem fits (h : p.Reordered q) {level : Nat} (hp : p.Fits level) : q.Fits level :=
  ⟨h.height_eq ▸ hp.1, h.everywhere Reorders.coherent hp.2⟩

end Reordered

end Destructure.Pattern
