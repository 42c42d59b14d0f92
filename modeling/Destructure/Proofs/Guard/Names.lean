import Destructure.Proofs.Guard.Evaluation

set_option autoImplicit false

/-! # The names that a guard mentions

Comparisons and presence tests look a name up and see nothing else of their scope. So a guard that is
put together from these alone is worth the same in all scopes that agree on the names that it
mentions (`Guard.BuiltIn.value_congr`). A condition of a domain is handed the whole scope, and no such
thing can be said of it. -/

namespace Destructure.Guard

/-- The guard is put together from comparisons and presence tests. -/
inductive BuiltIn : Guard → Prop where
  | compare (binding : String) (op : CompareOp) (value : Value) :
    BuiltIn (.compare binding op value)
  | bound (name : String) : BuiltIn (.bound name)
  | all {members : List Guard} (h : ∀ m ∈ members, BuiltIn m) : BuiltIn (.all members)
  | any {members : List Guard} (h : ∀ m ∈ members, BuiltIn m) : BuiltIn (.any members)
  | not {inner : Guard} (h : BuiltIn inner) : BuiltIn (.not inner)

/-- A comparison or a presence test in the guard is about the name. -/
inductive Mentions (name : String) : Guard → Prop where
  | compare (op : CompareOp) (value : Value) : Mentions name (.compare name op value)
  | bound : Mentions name (.bound name)
  | all {members : List Guard} {m : Guard} (hm : m ∈ members) (h : Mentions name m) :
    Mentions name (.all members)
  | any {members : List Guard} {m : Guard} (hm : m ∈ members) (h : Mentions name m) :
    Mentions name (.any members)
  | not {inner : Guard} (h : Mentions name inner) : Mentions name (.not inner)

variable {scope scope' : Scope}

/-- A scan comes to the same in two scopes when each of its members does. -/
theorem result_scan_congr {goesOn : Value → Bool} {stop last : Value} {members : List Guard}
    (h : ∀ m ∈ members, m.value scope = m.value scope') (site : Site) (index : Nat) :
    (scan goesOn stop last members scope site index).result
      = (scan goesOn stop last members scope' site index).result := by
  induction members generalizing index with
  | nil => rfl
  | cons m rest ih =>
    rw [List.forall_mem_cons] at h
    have hrest := ih h.2 (index + 1)
    rw [scan, scan, Run.result_bind, Run.result_bind, result_evaluate, result_evaluate, h.1]
    congr 1
    funext value
    split
    · exact hrest
    · rfl

/-- A guard without conditions of a domain is worth the same in two scopes that agree on the names
that it mentions. -/
theorem BuiltIn.value_congr {guard : Guard} (h : guard.BuiltIn)
    (hagree : ∀ name, guard.Mentions name → scope.lookup name = scope'.lookup name) :
    guard.value scope = guard.value scope' := by
  induction h with
  | compare binding op value =>
    show compareIn binding op value scope = compareIn binding op value scope'
    rw [compareIn, compareIn, hagree binding (.compare op value)]
  | bound name =>
    show Except.ok (Value.bool (boundIn name scope)) = Except.ok (.bool (boundIn name scope'))
    rw [boundIn, boundIn, hagree name .bound]
  | @all members _ ih =>
    have hmembers : ∀ m ∈ members, m.value scope = m.value scope' :=
      fun m hm => ih m hm fun name hname => hagree name (.all hm hname)
    rw [value, value, evaluate, evaluate, evaluateAll_eq_scan, evaluateAll_eq_scan]
    exact result_scan_congr hmembers [] 0
  | @any members _ ih =>
    have hmembers : ∀ m ∈ members, m.value scope = m.value scope' :=
      fun m hm => ih m hm fun name hname => hagree name (.any hm hname)
    rw [value, value, evaluate, evaluate, evaluateAny_eq_scan, evaluateAny_eq_scan]
    exact result_scan_congr hmembers [] 0
  | @not inner _ ih =>
    have hinner : inner.value scope = inner.value scope' :=
      ih fun name hname => hagree name (.not hname)
    rw [value, value, evaluate, evaluate, Run.result_bind, Run.result_bind, result_evaluate,
      result_evaluate, hinner]

end Destructure.Guard
