import Destructure.Proofs.Entries
import Destructure.Proofs.Matching.Accumulator
import Destructure.Proofs.Pattern.Acceptance

set_option autoImplicit false

/-! # The binders of a match

The check of a pattern knows one list of names, and an alternation stands in it with the names of
its first branch. A match may go through any branch, and after others that have bound names before
they failed. It still binds exactly those names (`Compiled.matched_binds_binders`): the check has
compared the branches, and what failed branches bound is not part of a reading. Only the order can
be that of the branch. -/

namespace Destructure

theorem Bindings.contains_iff {b : Bindings} {name : String} :
    b.contains name ↔ name ∈ b.names := Entries.isSome_find?_iff

namespace Pattern

/-- In every alternation all branches declare their names in the same order. -/
def InOrder (p : Pattern) : Prop :=
  p.Everywhere fun q => ∀ b ∈ q.branches, ∀ b' ∈ q.branches, b.declared = b'.declared

/-- A node with branches declares what its first branch declares. -/
theorem exists_branch_declared {p b : Pattern} (h : b ∈ p.branches) :
    ∃ first ∈ p.branches, p.declared = first.declared := by
  cases p with
  | alternation ps =>
    cases ps with
    | nil => exact absurd h (by simp [branches])
    | cons first others => exact ⟨first, List.mem_cons_self .., declared_alternation first others⟩
  | _ => exact absurd h (by simp [branches])

/-- Where all branches agree on the order, a match binds the names in the order of their
declaration. -/
theorem read_inOrder {p : Pattern} (h : p.InOrder) (scope : Scope) : p.BindsDeclared Eq scope := by
  refine read_names (fun _ => rfl) ?_ Eq.trans (h.mono fun q hq b hb => ?_) scope
  · rintro k l m n rfl rfl
    rfl
  · obtain ⟨first, hfirst, hdeclared⟩ := exists_branch_declared hb
    rw [hdeclared]
    exact hq b hb first hfirst

end Pattern

namespace Compiled

/-- A match binds the pairs of the reading. -/
theorem read_of_matched {c : Compiled} {subject : Value} {scope : Scope} {site : Site}
    {b : Bindings} (h : (c.matchIn subject scope site).result = .ok (.matched b)) :
    (c.pattern.read scope site subject).result = .ok (some b.entries) := by
  rw [← c.matchIn_reads, Run.result_map, h]
  rfl

theorem agrees (c : Compiled) : c.pattern.Agrees :=
  (Pattern.everywhere_namesFit_iff.1 c.namesFit).2

/-- A match binds the binders of the pattern, in some order. -/
theorem names_perm_binders {c : Compiled} {subject : Value} {scope : Scope} {site : Site}
    {b : Bindings} (h : (c.matchIn subject scope site).result = .ok (.matched b)) :
    b.names.Perm c.binders := by
  rw [c.binders_eq]
  exact Pattern.read_perm c.namesFit scope site subject _ (read_of_matched h)

/-- A match binds the binders of the pattern, each of them once: every name that occurs in the
pattern, in whichever branch, and no other. If the branches of all alternations agree on the order
of their names, it binds them in the order of the binders. -/
theorem matched_binds_binders {c : Compiled} {subject : Value} {scope : Scope} {site : Site}
    {b : Bindings} (h : (c.matchIn subject scope site).result = .ok (.matched b)) :
    b.names.Perm c.binders ∧ b.names.Nodup ∧ (∀ name, b.contains name ↔ c.pattern.Names name) ∧
      (c.pattern.InOrder → b.names = c.binders) := by
  have hread := read_of_matched h
  have hperm : b.names.Perm c.binders := by
    rw [c.binders_eq]
    exact Pattern.read_perm c.namesFit scope site subject _ hread
  refine ⟨hperm, b.nodup, fun name => ?_, fun horder => ?_⟩
  · rw [Bindings.contains_iff, hperm.mem_iff, c.binders_eq, Pattern.names_iff_mem_declared c.agrees]
  · rw [c.binders_eq]
    exact Pattern.read_inOrder horder scope site subject _ hread

theorem besideNull_inOrder : besideNull.pattern.InOrder := by
  simp [besideNull, Pattern.besideNull, Pattern.InOrder, Pattern.branches,
    Pattern.everywhere_iff (p := .conjunction _), Pattern.everywhere_iff (p := .alternation _),
    Pattern.everywhere_iff (p := .sequence _ _), Pattern.everywhere_iff (p := .binder _),
    Pattern.everywhere_iff (p := .literal _)]

theorem matched_binds_binders_besideNull :
    ∃ b, (besideNull.matchIn (.sequence [.null, .bool true]) .root []).result = .ok (.matched b) ∧
      b.names = ["pair", "item"] ∧ b.get? "item" = some (.bool true) := by
  have hmatch : (besideNull.matchIn (.sequence [.null, .bool true]) .root []).result
      = .ok (.matched ((Bindings.empty.bind "pair" (.sequence [.null, .bool true])).bind "item"
          (.bool true))) := by cbv
  exact ⟨_, hmatch, (matched_binds_binders hmatch).2.2.2 besideNull_inOrder, by cbv⟩

end Compiled

end Destructure
