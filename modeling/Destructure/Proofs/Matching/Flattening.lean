import Destructure.Proofs.Matching.Accumulator
import Destructure.Proofs.Matching.Interchange
import Destructure.Proofs.Pattern.Flattening

set_option autoImplicit false

/-! # Flattening keeps the meaning

Trying branches one after the other does not depend on how they are grouped, and neither does matching
members together. So a pattern with a node flattened can stand for the pattern itself, wherever the node
is (`Pattern.Flattens.interchangeable`): the shapes on the way to it stay, so extractors hand over what
they did. `Pattern.compile_flattens` puts this together with what the check of a pattern says. -/

namespace Destructure.Pattern

/-! ## Lists in two parts -/

variable {scope : Scope} {site : Site}

theorem readBranches_append (ps qs : List Pattern) (index : Nat) (subject : Value) :
    readBranches (ps ++ qs) scope site index subject
      = (readBranches ps scope site index subject).either
          (readBranches qs scope site (index + ps.length) subject) := by
  induction ps generalizing index with
  | nil => simp [readBranches, Reading.rejected_either]
  | cons p ps ih =>
    rw [List.cons_append, readBranches, readBranches, ih, Reading.either_assoc, List.length_cons,
      Nat.add_right_comm, Nat.add_assoc]

theorem readMembers_append (ps qs : List Pattern) (index : Nat) (subject : Value) :
    readMembers (ps ++ qs) scope site index subject
      = (readMembers ps scope site index subject).both
          (readMembers qs scope site (index + ps.length) subject) := by
  induction ps generalizing index with
  | nil => simp [readMembers, Reading.bound_nil_both]
  | cons p ps ih =>
    rw [List.cons_append, readMembers, readMembers, ih, Reading.both_assoc, List.length_cons,
      Nat.add_right_comm, Nat.add_assoc]

/-! ## One step -/

namespace Flattens

/-- The branches of an inner alternation are tried where it is. -/
theorem interchangeable_branches (xs ys zs : List Pattern) :
    (alternation (xs ++ ys ++ zs)).Interchangeable
      (alternation (xs ++ alternation ys :: zs)) := by
  refine ⟨shape_eq (.branches xs ys zs), fun scope s t subject => ?_⟩
  rw [read, read, readBranches_append, readBranches_append, readBranches_append, readBranches, read,
    Reading.either_assoc]
  exact alike_either (readBranches_alike ..)
    (alike_either (readBranches_alike ..) (readBranches_alike ..))

/-- The members of an inner conjunction are matched where it is. -/
theorem interchangeable_members (xs ys zs : List Pattern) :
    (conjunction (xs ++ ys ++ zs)).Interchangeable
      (conjunction (xs ++ conjunction ys :: zs)) := by
  refine ⟨shape_eq (.members xs ys zs), fun scope s t subject => ?_⟩
  rw [read, read, readMembers_append, readMembers_append, readMembers_append, readMembers, read,
    Reading.both_assoc]
  exact alike_both (readMembers_alike ..)
    (alike_both (readMembers_alike ..) (readMembers_alike ..))

/-- The pattern with a node flattened can stand for the pattern. -/
theorem interchangeable {p q : Pattern} {s : Site} (h : p.Flattens s q) : q.Interchangeable p := by
  induction h with
  | branches xs ys zs => exact interchangeable_branches xs ys zs
  | members xs ys zs => exact interchangeable_members xs ys zs
  | onlyBranch p =>
    refine ⟨shape_eq (.onlyBranch p), fun scope s t subject => ?_⟩
    rw [read, readBranches, readBranches, Reading.either_rejected]
    exact p.read_alike scope _ _ subject
  | onlyMember p =>
    refine ⟨shape_eq (.onlyMember p), fun scope s t subject => ?_⟩
    rw [read, readMembers, readMembers, Reading.both_bound_nil]
    exact p.read_alike scope _ _ subject
  | inside f _ ih => exact ih.fill f

end Flattens

theorem Flattened.interchangeable {p q : Pattern} (h : p.Flattened q) : q.Interchangeable p := by
  induction h with
  | refl => exact .refl p
  | tail _ hstep ih =>
    obtain ⟨s, hstep⟩ := hstep
    exact hstep.interchangeable.trans ih

/-- Flattening an accepted pattern at some site gives an accepted one, unless the node there becomes too
wide, and every pattern on the way to the site keeps its shape. However often an accepted pattern is
flattened, it stays accepted unless a node is too wide in the end. Then it has the same binders and no
greater depth, and every match comes to the same outcome or failure through the same calls. -/
theorem compile_flattens {p : Pattern} {c : Compiled} (hc : p.compile = .ok c) :
    (∀ s q, p.Flattens s q →
      ((∃ c', q.compile = .ok c') ↔
        ∀ r, q.node? s = some r → r.children.length ≤ maxBranches) ∧
      ∀ u, u <+: s → (q.node? u).map shape = (p.node? u).map shape) ∧
    ∀ q, p.Flattened q →
      ((∃ c', q.compile = .ok c') ↔
        ∀ s r, q.node? s = some r → r.children.length ≤ maxBranches) ∧
      ∀ c', q.compile = .ok c' →
        c'.binders = c.binders ∧ c'.depth ≤ c.depth ∧
          ∀ subject scope site,
            (c'.matchIn subject scope site).Alike (c.matchIn subject scope site) := by
  obtain rfl := compile_eq_ok.1 hc
  refine ⟨fun s q h => ⟨?_, fun u hu => h.shape_node? hu⟩, fun q h => ⟨?_, fun c' hc' => ?_⟩⟩
  · rw [exists_compile_iff, Flattened.fits_one_iff_narrow (.single ⟨s, h⟩) c.fits]
    exact ⟨fun hq r hr => hq s r hr, h.narrow (c.fits.2.mono fun _ hr => hr.narrow)⟩
  · rw [exists_compile_iff, h.fits_one_iff_narrow c.fits]
    exact Iff.rfl
  · obtain rfl := compile_eq_ok.1 hc'
    refine ⟨?_, ?_, fun subject scope site => ?_⟩
    · rw [c'.binders_eq, c.binders_eq]
      exact (h.declared_eq (c.fits.2.mono fun _ hr => (coherent_iff.1 hr).1)).1
    · rw [c'.depth_eq, c.depth_eq]
      exact h.height_le
    · exact Compiled.matchIn_alike (h.interchangeable.read scope site site subject)

/-- The last of one or two items. -/
def lastOfFew : List Pattern :=
  [.sequence [some (.binder "last")] none, .sequence [none, some (.binder "last")] none]

/-- The last of three items. -/
def lastOfThree : Pattern := .sequence [none, none, some (.binder "last")] none

/-- The last of up to three items, for the sequences that an extractor accepts. -/
def lastItem (branches : List Pattern) : Pattern :=
  .extractor (.ofKind .sequence) (some (.alternation branches))

theorem compile_flattens_lastItem :
    ∃ c', (lastItem (lastOfFew ++ [lastOfThree])).compile = .ok c' ∧ c'.binders = ["last"] ∧
      c'.depth ≤ 5 ∧ (c'.matchIn (.sequence [.null, .bool true]) .root []).result
        = .ok (.matched (Bindings.empty.bind "last" (.bool true))) := by
  let c : Compiled := ⟨lastItem [.alternation lastOfFew, lastOfThree], ["last"], 5, by cbv⟩
  have hcompile : c.pattern.compile = .ok c := compile_eq_ok.2 rfl
  have hflattens : c.pattern.Flattens [0] (lastItem (lastOfFew ++ [lastOfThree])) :=
    .inside (.extractor (.ofKind .sequence)) (.branches [] lastOfFew [lastOfThree])
  obtain ⟨hstep, hmatch⟩ := compile_flattens hcompile
  obtain ⟨c', hc'⟩ := (hstep [0] _ hflattens).1.2 (by rintro r ⟨⟩; decide)
  obtain ⟨hbinders, hdepth, halike⟩ := (hmatch _ (.single ⟨[0], hflattens⟩)).2 c' hc'
  refine ⟨c', hc', hbinders, hdepth, ?_⟩
  rw [(halike (.sequence [.null, .bool true]) .root []).result]
  cbv

end Destructure.Pattern
