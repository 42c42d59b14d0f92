import Destructure.Proofs.CallOrder
import Destructure.Proofs.Guard.Evaluation

set_option autoImplicit false

/-! # The leaves that a guard evaluates

A combination evaluates its members up to the first one that decides it (`Guard.tried`), so the leaves
that are evaluated are those that evaluation comes to: on the way to one, every member before it was
evaluated and decided nothing (`Guard.Reaches`). They are evaluated from left to right, each of them
once, and the first one that fails is the last (`Guard.callsInOrder`). -/

namespace Destructure

/-- The leaf that a call evaluates fails. -/
def Call.LeafFails (call : Call) (e : GuardError) : Prop :=
  ∃ leaf scope, call.event = .check leaf scope ∧ leaf.value scope = .error e

namespace Guard

variable {scope : Scope} {site : Site}

/-! ## Guards as trees -/

/-- The members that a combination evaluates, in order. -/
def members : Guard → List Guard
  | .all members => members
  | .any members => members
  | .not inner => [inner]
  | .compare .. | .bound _ | .custom _ => []

/-- The guard is evaluated by itself. -/
def isLeaf : Guard → Bool
  | .compare .. | .bound _ | .custom _ => true
  | .all _ | .any _ | .not _ => false

theorem sizeOf_lt_of_mem_members {guard m : Guard} (h : m ∈ guard.members) :
    sizeOf m < sizeOf guard := by
  cases guard with
  | all members =>
    have hlt : sizeOf m < sizeOf members := List.sizeOf_lt_of_mem h
    simp only [all.sizeOf_spec]
    omega
  | any members =>
    have hlt : sizeOf m < sizeOf members := List.sizeOf_lt_of_mem h
    simp only [any.sizeOf_spec]
    omega
  | not inner =>
    obtain rfl : m = inner := List.mem_singleton.1 h
    simp only [not.sizeOf_spec]
    omega
  | _ => cases h

/-- What holds of a guard as soon as it holds of its members holds of every guard. -/
@[elab_as_elim]
theorem membersInduction {motive : Guard → Prop}
    (node : ∀ guard : Guard, (∀ m ∈ guard.members, motive m) → motive guard) (guard : Guard) :
    motive guard :=
  node guard fun m _ => membersInduction node m
termination_by sizeOf guard
decreasing_by exact sizeOf_lt_of_mem_members ‹_›

theorem mem_members_of_mem_zipIdx {guard m : Guard} {i : Nat} (h : (m, i) ∈ guard.members.zipIdx) :
    m ∈ guard.members := by
  have hmember := List.mem_zipIdx_iff_getElem?.1 h
  exact List.mem_of_getElem? hmember

/-- The sites of the leaves, from left to right. The place in this list is the number of a leaf. -/
def leafSites (guard : Guard) : List Site :=
  (if guard.isLeaf then [[]] else [])
    ++ guard.members.zipIdx.attach.flatMap fun m => m.1.1.leafSites.map (m.1.2 :: ·)
termination_by guard
decreasing_by exact sizeOf_lt_of_mem_members (mem_members_of_mem_zipIdx m.2)

theorem leafSites_eq (guard : Guard) : guard.leafSites =
    (if guard.isLeaf then [[]] else [])
      ++ guard.members.zipIdx.flatMap fun m => m.1.leafSites.map (m.2 :: ·) := by
  have h := List.flatMap_subtype (l := guard.members.zipIdx.attach)
    (f := fun m => m.1.1.leafSites.map (m.1.2 :: ·))
    (g := fun m => m.1.leafSites.map (m.2 :: ·)) fun _ _ => rfl
  rw [leafSites, h, List.unattach_attach]

theorem members_of_isLeaf {guard : Guard} (h : guard.isLeaf) : guard.members = [] := by
  cases guard with
  | all members => cases h
  | any members => cases h
  | not inner => cases h
  | _ => rfl

theorem pairwise_snd_zipIdx {α : Type} (l : List α) :
    l.zipIdx.Pairwise fun a b => a.2 < b.2 := by
  have h : (l.zipIdx.map (·.2)).Pairwise (· < ·) := by
    rw [List.zipIdx_map_snd]
    exact List.pairwise_lt_range'
  rwa [List.pairwise_map] at h

/-- The leaves are met in lexicographic order of their sites. -/
theorem lex_leafSites (guard : Guard) : guard.leafSites.Pairwise (List.Lex (· < ·)) := by
  induction guard using membersInduction with
  | node guard ih =>
    rw [leafSites_eq]
    by_cases hleaf : guard.isLeaf
    · simp [hleaf, members_of_isLeaf hleaf]
    · rw [if_neg hleaf, List.nil_append]
      refine pairwise_lex_flatMap (pairwise_snd_zipIdx guard.members) fun m hm => ?_
      exact ih m.1 (mem_members_of_mem_zipIdx hm)

/-! ## Members that are evaluated -/

/-- A member of that value does not decide the guard. -/
def continues : Guard → Value → Bool
  | .all _, value => value.isTruthy
  | .any _, value => !value.isTruthy
  | _, _ => false

/-- A member that is worth a value of which the condition holds. -/
def holdsOf (condition : Value → Bool) (scope : Scope) (m : Guard) : Bool :=
  match m.value scope with
  | .ok value => condition value
  | .error _ => false

/-- The member does not decide the guard, so the next one is evaluated. -/
def goesOn (guard : Guard) (scope : Scope) (m : Guard) : Bool := holdsOf guard.continues scope m

/-- The members that are evaluated, with their numbers. -/
def tried (guard : Guard) (scope : Scope) : List (Guard × Nat) :=
  upTo (fun m => guard.goesOn scope m.1) guard.members.zipIdx

theorem mem_tried {guard m : Guard} {i : Nat} : (m, i) ∈ guard.tried scope ↔
    guard.members[i]? = some m ∧ ∀ b ∈ guard.members.take i, guard.goesOn scope b := by
  rw [tried, ← mem_upTo_zipIdx, Nat.zero_add]

/-- A scan makes the calls of the members up to the first one that stops it. -/
theorem calls_scan (condition : Value → Bool) (stop last : Value) (ms : List Guard) (index : Nat) :
    (scan condition stop last ms scope site index).calls
      = (upTo (fun m => holdsOf condition scope m.1) (ms.zipIdx index)).flatMap
          fun m => (m.1.evaluate scope (site ++ [m.2])).calls := by
  induction ms generalizing index with
  | nil => rfl
  | cons m ms ih =>
    rw [scan, List.zipIdx_cons, upTo]
    cases hvalue : m.value scope with
    | error e =>
      rw [Run.calls_bind_of_error (by rw [result_evaluate, hvalue])]
      simp [holdsOf, hvalue]
    | ok value =>
      rw [Run.calls_bind_of_ok (by rw [result_evaluate, hvalue])]
      cases hcondition : condition value <;> simp [holdsOf, hvalue, hcondition, ih]

/-- A leaf makes one call, and a combination those of the members that are evaluated. -/
theorem calls_evaluate (guard : Guard) (scope : Scope) (site : Site) :
    (guard.evaluate scope site).calls = (if guard.isLeaf then [⟨site, .check guard scope⟩] else [])
      ++ (guard.tried scope).flatMap fun m => (m.1.evaluate scope (site ++ [m.2])).calls := by
  cases guard with
  | all members => rw [evaluate, evaluateAll_eq_scan, calls_scan]; rfl
  | any members => rw [evaluate, evaluateAny_eq_scan, calls_scan]; rfl
  | not inner =>
    -- a single member is evaluated, whether or not it would go on
    have htried : inner.not.tried scope = [(inner, 0)] := upTo_singleton _ _
    rw [evaluate, bind_pure_comp, Run.calls_map, htried]
    exact (List.append_nil _).symm
  | _ => rfl

/-- Evaluation comes to the node `q` at a site: on the way there it goes on past all members before
it. -/
def Reaches (guard : Guard) (scope : Scope) (site : Site) (q : Guard) : Prop :=
  match site with
  | [] => guard = q
  | i :: site => ∃ m, (guard.members[i]? = some m ∧
      ∀ b ∈ guard.members.take i, guard.goesOn scope b) ∧ m.Reaches scope site q

/-- Evaluated are the leaves that evaluation comes to, and no others. -/
theorem mem_calls_evaluate {guard : Guard} {call : Call} :
    call ∈ (guard.evaluate scope site).calls ↔ ∃ s leaf, guard.Reaches scope s leaf ∧
      leaf.isLeaf ∧ call = ⟨site ++ s, .check leaf scope⟩ := by
  induction guard using membersInduction generalizing site with
  | node guard ih =>
    rw [calls_evaluate, List.mem_append, List.mem_flatMap]
    constructor
    · rintro (hown | ⟨⟨m, i⟩, htried, hcall⟩)
      · split at hown
        · next hleaf =>
          obtain rfl := List.mem_singleton.1 hown
          exact ⟨[], guard, rfl, hleaf, by rw [List.append_nil]⟩
        · cases hown
      · have hreach := mem_tried.1 htried
        obtain ⟨s, leaf, hs, hleaf, rfl⟩ := (ih m (List.mem_of_getElem? hreach.1)).1 hcall
        exact ⟨i :: s, leaf, ⟨m, hreach, hs⟩, hleaf, by simp⟩
    · rintro ⟨s, leaf, hs, hleaf, rfl⟩
      cases s with
      | nil =>
        obtain rfl : guard = leaf := hs
        simp [hleaf]
      | cons i s =>
        obtain ⟨m, hreach, hs⟩ := hs
        refine .inr ⟨(m, i), mem_tried.2 hreach, ?_⟩
        refine (ih m (List.mem_of_getElem? hreach.1)).2 ⟨s, leaf, hs, hleaf, ?_⟩
        simp

/-- Leaves are evaluated from left to right, each of them once at most. -/
theorem sites_evaluate_sublist (guard : Guard) (scope : Scope) (site : Site) :
    ((guard.evaluate scope site).calls.map (·.site)).Sublist
      (guard.leafSites.map (site ++ ·)) := by
  induction guard using membersInduction generalizing site with
  | node guard ih =>
    rw [calls_evaluate, leafSites_eq, List.map_append, List.map_append, List.map_flatMap,
      List.map_flatMap]
    refine List.Sublist.append (by cases guard.isLeaf <;> simp) ?_
    have hmembers : ∀ m ∈ guard.tried scope,
        ((m.1.evaluate scope (site ++ [m.2])).calls.map (·.site)).Sublist
          ((m.1.leafSites.map (m.2 :: ·)).map (site ++ ·)) := by
      intro m hm
      have hmember := List.mem_of_getElem? (mem_tried.1 hm).1
      have hsites := ih m.1 hmember (site ++ [m.2])
      simp only [List.append_assoc, List.singleton_append] at hsites
      rwa [List.map_map]
    refine (List.Sublist.flatMap_right _ hmembers).trans ?_
    exact (prefix_upTo _ _).sublist.flatMap _

/-! ## Leaves that fail -/

theorem stopsAt_scan {condition : Value → Bool} {stop last : Value} {ms : List Guard} {index : Nat}
    (h : ∀ m ∈ ms, ∀ site, (m.evaluate scope site).StopsAt Call.LeafFails) :
    (scan condition stop last ms scope site index).StopsAt Call.LeafFails := by
  induction ms generalizing index with
  | nil => exact .pure _
  | cons m ms ih =>
    rw [List.forall_mem_cons] at h
    rw [scan]
    refine (h.1 _).bind fun value _ => ?_
    split
    · exact ih h.2
    · exact .pure _

theorem stopsAt_leaf {leaf : Guard} :
    (Run.called ⟨site, .check leaf scope⟩ (leaf.value scope)).StopsAt Call.LeafFails := by
  refine .called fun e => ⟨?_, fun h => ⟨leaf, scope, rfl, h⟩⟩
  rintro ⟨_, _, ⟨rfl, rfl⟩, h⟩
  exact h

/-- Evaluation stops at the first leaf that fails, and fails as that does. -/
theorem stopsAt_evaluate (guard : Guard) (scope : Scope) (site : Site) :
    (guard.evaluate scope site).StopsAt Call.LeafFails := by
  induction guard using membersInduction generalizing site with
  | node guard ih =>
    cases guard with
    | all members => rw [evaluate, evaluateAll_eq_scan]; exact stopsAt_scan ih
    | any members => rw [evaluate, evaluateAny_eq_scan]; exact stopsAt_scan ih
    | not inner =>
      rw [evaluate, bind_pure_comp]
      exact (ih inner (List.mem_singleton_self inner) _).map _
    | _ => exact stopsAt_leaf

/-! ## The calls of one guard -/

/-- What is known of the calls of a guard that stands at `site`.

* Evaluated are the leaves that evaluation comes to, and no others.
* Every call comes from a numbered leaf, and the numbers ascend strictly.
* A leaf that fails is the last one, and its failure is the result; and every failure is that of the
  last leaf. -/
structure CallsInOrder (guard : Guard) (scope : Scope) (site : Site) : Prop where
  mem_iff : ∀ call, call ∈ (guard.evaluate scope site).calls ↔
    ∃ s leaf, guard.Reaches scope s leaf ∧ leaf.isLeaf ∧ call = ⟨site ++ s, .check leaf scope⟩
  numbered : ∀ call ∈ (guard.evaluate scope site).calls,
    call.site ∈ guard.leafSites.map (site ++ ·)
  ascending : (guard.evaluate scope site).calls.Pairwise fun a b =>
    a.number (guard.leafSites.map (site ++ ·)) < b.number (guard.leafSites.map (site ++ ·))
  failing : ∀ call ∈ (guard.evaluate scope site).calls, ∀ e, call.LeafFails e →
    (guard.evaluate scope site).calls.getLast? = some call ∧
      (guard.evaluate scope site).result = .error e
  failed : ∀ e, (guard.evaluate scope site).result = .error e →
    ∃ call, (guard.evaluate scope site).calls.getLast? = some call ∧ call.LeafFails e

theorem callsInOrder (guard : Guard) (scope : Scope) (site : Site) :
    guard.CallsInOrder scope site where
  mem_iff _ := mem_calls_evaluate
  numbered call hcall :=
    (guard.sites_evaluate_sublist scope site).subset (List.mem_map_of_mem hcall)
  ascending := by
    refine pairwise_number ?_ (guard.sites_evaluate_sublist scope site)
    exact (nodup_of_pairwise_lex guard.lex_leafSites).map (List.append_right_injective site)
  failing _ hcall _ hfails := (guard.stopsAt_evaluate scope site).last_of_fails hcall hfails
  failed _ he := (guard.stopsAt_evaluate scope site).fails_of_error he

end Guard

end Destructure
