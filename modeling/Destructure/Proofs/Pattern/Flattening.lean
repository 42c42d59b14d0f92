import Mathlib.Data.List.Infix
import Destructure.Proofs.Pattern.Frame

set_option autoImplicit false

/-! # Flattening

Alternations among the branches of an alternation, and conjunctions among the members of a
conjunction, can be spliced into it, and an alternation or a conjunction of one member can be replaced
by that. `Pattern.Flattens` is one such step, at any site. It keeps the declared names and every shape
on the way to its site, makes no tree higher, and spoils no node but for its width
(`Pattern.Flattens.tidy`). `Pattern.Flattened` is any number of steps: what was accepted stays accepted,
unless a node has become too wide (`Pattern.Flattened.fits_one_iff_narrow`). -/

namespace Destructure.Pattern

/-- The second pattern is the first one with the node at the site flattened. -/
inductive Flattens : Pattern → Site → Pattern → Prop
  | branches (xs ys zs : List Pattern) :
      Flattens (.alternation (xs ++ .alternation ys :: zs)) [] (.alternation (xs ++ ys ++ zs))
  | members (xs ys zs : List Pattern) :
      Flattens (.conjunction (xs ++ .conjunction ys :: zs)) [] (.conjunction (xs ++ ys ++ zs))
  | onlyBranch (p : Pattern) : Flattens (.alternation [p]) [] p
  | onlyMember (p : Pattern) : Flattens (.conjunction [p]) [] p
  | inside {p q : Pattern} {s : Site} (f : Frame) (h : Flattens p s q) :
      Flattens (f.fill p) (f.index :: s) (f.fill q)

theorem maxHeight_append (ps qs : List Pattern) :
    maxHeight (ps ++ qs) = max (maxHeight ps) (maxHeight qs) := by
  induction ps with
  | nil => simp
  | cons p ps ih => simp [ih, Nat.max_assoc]

namespace Flattens

variable {p q : Pattern} {s : Site}

theorem shape_eq (h : p.Flattens s q) : q.shape = p.shape := by
  induction h with
  | branches xs ys zs | members xs ys zs =>
    simp [shape, shapes_append, shapes]
  | onlyBranch p | onlyMember p => simp [shape]
  | inside f _ ih => exact f.shape_fill ih

theorem height_le (h : p.Flattens s q) : q.height ≤ p.height := by
  induction h with
  | branches xs ys zs | members xs ys zs =>
    simp only [height_eq (alternation _), height_eq (conjunction _), parts_alternation,
      parts_conjunction, maxHeight_append, maxHeight_cons]
    omega
  | onlyBranch p | onlyMember p => simp [height_eq (alternation _), height_eq (conjunction _)]
  | inside f _ ih => exact f.height_fill_le ih

/-- The names of the first branch are those of the first branch of that. -/
theorem declared_eq (h : p.Flattens s q) (hp : p.Everywhere Tidy) : q.declared = p.declared := by
  induction h with
  | branches xs ys zs =>
    cases xs with
    | cons first xs => simp
    | nil =>
      cases ys with
      | nil => exact absurd rfl (hp.part (q := alternation []) (by simp)).root.ne_alternation
      | cons first ys => simp
  | members xs ys zs => simp
  | onlyBranch p | onlyMember p => simp
  | inside f _ ih => exact f.declared_fill (ih ((f.everywhere_fill.1 hp).2.1))

/-- Parts that are spliced in come from one level below. -/
theorem everywhere_spliced {P : Pattern → Prop} {inner : Pattern} {xs ys zs : List Pattern}
    (hinner : inner.parts = ys) (h : ∀ r ∈ xs ++ inner :: zs, r.Everywhere P) :
    ∀ r ∈ xs ++ ys ++ zs, r.Everywhere P := by
  simp only [List.forall_mem_append, List.forall_mem_cons] at h ⊢
  exact ⟨⟨h.1, fun r hr => h.2.1.part (hinner ▸ hr)⟩, h.2.2⟩

/-- A condition on nodes is kept everywhere when the nodes on the way to the site keep it, and the node
that comes of the flattening has it. -/
theorem everywhere {P : Pattern → Prop}
    (hframe : ∀ {p q : Pattern} {s : Site} (f : Frame), p.Flattens s q → p.Everywhere P →
      P (f.fill p) → P (f.fill q))
    (h : p.Flattens s q) (hp : p.Everywhere P)
    (hsite : ∀ a b : Pattern, q.node? s = some b → a.Flattens [] b → a.Everywhere P → P b) :
    q.Everywhere P := by
  induction h with
  | branches xs ys zs =>
    have hparts := everywhere_spliced (parts_alternation ys) fun r hr => hp.part (by simpa using hr)
    exact everywhere_iff.2 ⟨hsite _ _ rfl (.branches xs ys zs) hp, by simpa using hparts⟩
  | members xs ys zs =>
    have hparts := everywhere_spliced (parts_conjunction ys) fun r hr => hp.part (by simpa using hr)
    exact everywhere_iff.2 ⟨hsite _ _ rfl (.members xs ys zs) hp, by simpa using hparts⟩
  | onlyBranch p | onlyMember p => exact hp.part (by simp)
  | inside f h ih =>
    obtain ⟨hroot, hchild, hsiblings⟩ := f.everywhere_fill.1 hp
    refine f.everywhere_fill.2 ⟨hframe f h hchild hroot, ih hchild ?_, hsiblings⟩
    exact fun a b hb => hsite a b (by rw [f.node?_fill, hb])

/-- The node that comes of the flattening is as the check demands. -/
theorem tidy_root (h : p.Flattens [] q) (hp : p.Everywhere Tidy) : q.Tidy := by
  have hnodup : q.declared.Nodup := h.declared_eq hp ▸ hp.root.declared_nodup
  have hdeclared := h.declared_eq hp
  cases h with
  | branches xs ys zs =>
    have hinner := (hp.part (q := alternation ys) (by simp)).root
    have hys : ys ≠ [] := fun he => hinner.ne_alternation (congrArg alternation he)
    have hperm := hp.root.branches_perm
    simp only [Pattern.branches, List.forall_mem_append, List.forall_mem_cons] at hperm
    exact {
      declared_nodup := hnodup
      branches_perm := by
        rw [hdeclared]
        simp only [Pattern.branches, List.forall_mem_append]
        -- the names of an inner branch are those of the inner alternation
        exact ⟨⟨hperm.1, fun b hb => (hinner.branches_perm b hb).trans hperm.2.1⟩, hperm.2.2⟩
      ne_alternation := by simp [hys]
      ne_conjunction := by simp
      keys_nodup := List.nodup_nil }
  | members xs ys zs =>
    have hinner := (hp.part (q := conjunction ys) (by simp)).root
    have hys : ys ≠ [] := fun he => hinner.ne_conjunction (congrArg conjunction he)
    exact (tidy_iff_nodup (by simp) rfl (by simp [hys])).2 hnodup
  | onlyBranch p | onlyMember p => exact (hp.part (by simp)).root

/-- Flattening spoils no node, but for its width. -/
theorem tidy (h : p.Flattens s q) (hp : p.Everywhere Tidy) : q.Everywhere Tidy :=
  h.everywhere (fun f h hp => f.tidy_fill (.of_eq (h.declared_eq hp))) hp fun _ _ _ => tidy_root

/-- Only the node that is spliced can become too wide. -/
theorem narrow (h : p.Flattens s q) (hp : p.Everywhere Narrow)
    (hsite : ∀ r, q.node? s = some r → r.Narrow) : q.Everywhere Narrow :=
  h.everywhere (fun f _ _ => f.narrow_fill) hp fun _ b hb _ _ => hsite b hb

/-- The shapes on the way to the node that is flattened, its own one included, stay. -/
theorem shape_node? (h : p.Flattens s q) {u : Site} (hu : u <+: s) :
    (q.node? u).map shape = (p.node? u).map shape := by
  induction u generalizing p q s with
  | nil => simp [h.shape_eq]
  | cons i u ih =>
    obtain ⟨t, rfl⟩ := hu
    cases h with
    | inside f h =>
      rw [f.node?_fill, f.node?_fill]
      exact ih h (List.prefix_append u t)

end Flattens

/-! ## Any number of steps -/

/-- The second pattern is the first one with some nodes flattened, one after the other. -/
def Flattened (p q : Pattern) : Prop := Relation.ReflTransGen (fun a b => ∃ s, a.Flattens s b) p q

namespace Flattened

variable {p q : Pattern}

theorem height_le (h : p.Flattened q) : q.height ≤ p.height := by
  induction h with
  | refl => exact le_refl _
  | tail _ hstep ih =>
    obtain ⟨s, hstep⟩ := hstep
    exact hstep.height_le.trans ih

theorem declared_eq (h : p.Flattened q) (hp : p.Everywhere Tidy) :
    q.declared = p.declared ∧ q.Everywhere Tidy := by
  induction h with
  | refl => exact ⟨rfl, hp⟩
  | tail _ hstep ih =>
    obtain ⟨s, hstep⟩ := hstep
    exact ⟨(hstep.declared_eq ih.2).trans ih.1, hstep.tidy ih.2⟩

/-- Flattening an accepted pattern gives an accepted one, unless a node has become too wide. -/
theorem fits_one_iff_narrow (h : p.Flattened q) (hp : p.Fits 1) : q.Fits 1 ↔ q.Everywhere Narrow := by
  have hcoherent (r : Pattern) : r.Everywhere Coherent ↔ r.Everywhere Tidy ∧ r.Everywhere Narrow := by
    rw [← everywhere_and]
    exact forall₃_congr fun _ _ _ => coherent_iff
  have hheight := h.height_le
  have htidy := (h.declared_eq ((hcoherent p).1 hp.2).1).2
  have hdepth := hp.1
  rw [Fits, hcoherent]
  exact ⟨fun hq => hq.2.2, fun hnarrow => ⟨by omega, htidy, hnarrow⟩⟩

end Flattened

end Destructure.Pattern
