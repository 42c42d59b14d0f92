import Destructure.Guard.Evaluation
import Destructure.Proofs.Run

set_option autoImplicit false

/-! # The value of a guard

Where a guard stands decides at which sites its leaves are called, but not what it is worth:
`Guard.evaluate_alike`. So one can speak of the value of a guard in a scope, `Guard.value`.

Both combinations of several members go through them in one way, `Guard.scan`, and differ in what
makes them go on. -/

namespace Destructure.Guard

mutual

/-- What a guard is worth, and which leaves are evaluated for it, does not depend on its site. -/
theorem evaluate_alike (guard : Guard) (scope : Scope) (s t : Site) :
    (guard.evaluate scope s).Alike (guard.evaluate scope t) := by
  cases guard with
  | compare binding op value => exact .called
  | bound name => exact .called
  | custom condition => exact .called
  | all members =>
    rw [evaluate, evaluate]
    exact evaluateAll_alike members scope s t 0
  | any members =>
    rw [evaluate, evaluate]
    exact evaluateAny_alike members scope s t 0
  | not inner =>
    rw [evaluate, evaluate]
    exact (evaluate_alike inner scope _ _).bind fun _ => .refl _

theorem evaluateAll_alike (members : List Guard) (scope : Scope) (s t : Site) (index : Nat) :
    (evaluateAll members scope s index).Alike (evaluateAll members scope t index) := by
  cases members with
  | nil => exact .refl _
  | cons guard rest =>
    rw [evaluateAll, evaluateAll]
    refine (evaluate_alike guard scope _ _).bind fun value => ?_
    split
    · exact evaluateAll_alike rest scope s t (index + 1)
    · exact .refl _

theorem evaluateAny_alike (members : List Guard) (scope : Scope) (s t : Site) (index : Nat) :
    (evaluateAny members scope s index).Alike (evaluateAny members scope t index) := by
  cases members with
  | nil => exact .refl _
  | cons guard rest =>
    rw [evaluateAny, evaluateAny]
    refine (evaluate_alike guard scope _ _).bind fun value => ?_
    split
    · exact .refl _
    · exact evaluateAny_alike rest scope s t (index + 1)

end

/-- What a guard is worth in a scope. -/
def value (guard : Guard) (scope : Scope) : Except GuardError Value :=
  (guard.evaluate scope []).result

theorem result_evaluate (guard : Guard) (scope : Scope) (site : Site) :
    (guard.evaluate scope site).result = guard.value scope :=
  (guard.evaluate_alike scope site []).result

/-! ## Going through members -/

/-- Evaluate members from number `index` on, up to the first one whose value does not go on: then the
value is `stop`, and `last` if there is no such member. -/
def scan (goesOn : Value → Bool) (stop last : Value) (members : List Guard) (scope : Scope)
    (site : Site) (index : Nat) : Run GuardError Value :=
  match members with
  | [] => pure last
  | m :: rest => do
    let value ← m.evaluate scope (site ++ [index])
    if goesOn value then scan goesOn stop last rest scope site (index + 1) else return stop

theorem evaluateAll_eq_scan (members : List Guard) (scope : Scope) (site : Site) (index : Nat) :
    evaluateAll members scope site index
      = scan Value.isTruthy (.bool false) (.bool true) members scope site index := by
  induction members generalizing index with
  | nil => rw [evaluateAll, scan]
  | cons m rest ih => simp only [evaluateAll, scan, ih]

theorem evaluateAny_eq_scan (members : List Guard) (scope : Scope) (site : Site) (index : Nat) :
    evaluateAny members scope site index
      = scan (fun value => !value.isTruthy) (.bool true) (.bool false) members scope site index := by
  induction members generalizing index with
  | nil => rw [evaluateAny, scan]
  | cons m rest ih =>
    rw [evaluateAny, scan]
    congr 1
    funext value
    rw [ih]
    cases value.isTruthy <;> rfl

/-- A scan fails as one of the members does. -/
theorem result_scan_eq_error {goesOn : Value → Bool} {stop last : Value} {members : List Guard}
    {scope : Scope} {site : Site} {index : Nat} {e : GuardError}
    (h : (scan goesOn stop last members scope site index).result = .error e) :
    ∃ m ∈ members, m.value scope = .error e := by
  induction members generalizing index with
  | nil =>
    rw [scan] at h
    cases h
  | cons m rest ih =>
    rw [scan, Run.result_bind, bind_eq_error, result_evaluate] at h
    rcases h with h | ⟨value, -, h⟩
    · exact ⟨m, List.mem_cons_self, h⟩
    · split at h
      · obtain ⟨m', hm', h⟩ := ih h
        exact ⟨m', List.mem_cons_of_mem m hm', h⟩
      · cases h

/-- A conjunction fails as one of its members does. -/
theorem value_all_eq_error {members : List Guard} {scope : Scope} {e : GuardError}
    (h : (all members).value scope = .error e) : ∃ m ∈ members, m.value scope = .error e := by
  rw [value, evaluate, evaluateAll_eq_scan] at h
  exact result_scan_eq_error h

/-- A disjunction fails as one of its members does. -/
theorem value_any_eq_error {members : List Guard} {scope : Scope} {e : GuardError}
    (h : (any members).value scope = .error e) : ∃ m ∈ members, m.value scope = .error e := by
  rw [value, evaluate, evaluateAny_eq_scan] at h
  exact result_scan_eq_error h

/-- A negation fails as its inner guard does. -/
theorem value_not_eq_error {inner : Guard} {scope : Scope} {e : GuardError} :
    (not inner).value scope = .error e ↔ inner.value scope = .error e := by
  rw [value, evaluate, bind_pure_comp, Run.result_map, map_eq_error, result_evaluate]

end Destructure.Guard
