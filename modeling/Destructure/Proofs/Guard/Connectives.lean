import Destructure.Proofs.Guard.Evaluation

set_option autoImplicit false

/-! # Laws of the connectives

The connectives stop at the first member that decides, hand failures on, and see of their members'
values only whether they are truthy. De Morgan's laws and flattening hold for them all the same
(`Guard.connectives_equivalent`), and not of their values alone: both sides evaluate the same leaves
in the same order. Each law comes from one about scans, in which `all` and `any` differ only by what
makes them go on. -/

namespace Destructure.Guard

/-- The guards can stand for each other: in every scope they evaluate the same leaves in the same
order, and then both come to the same truth value or fail alike. -/
structure Equivalent (guard other : Guard) : Prop where
  alike : ∀ scope s t, (guard.evaluate scope s).Alike (other.evaluate scope t)
  truth : ∀ scope value, guard.value scope = .ok value → ∃ b, value = .bool b

variable {goesOn goesOn' : Value → Bool} {stop last : Value} {scope : Scope}

/-! ## Scans in parts -/

/-- Scans that begin with the same members are alike when they go on alike. -/
theorem scan_append_alike (ms : List Guard) {ys zs : List Guard}
    (h : ∀ s t i j,
      (scan goesOn stop last ys scope s i).Alike (scan goesOn stop last zs scope t j))
    (s t : Site) (i j : Nat) :
    (scan goesOn stop last (ms ++ ys) scope s i).Alike
      (scan goesOn stop last (ms ++ zs) scope t j) := by
  induction ms generalizing i j with
  | nil => exact h s t i j
  | cons m ms ih =>
    rw [List.cons_append, List.cons_append, scan, scan]
    refine (evaluate_alike m scope _ _).bind fun value => ?_
    split
    · exact ih (i + 1) (j + 1)
    · exact .refl _

/-- A scan comes to the same wherever it is made, and whatever the number of its first member is. -/
theorem scan_alike (ms : List Guard) (s t : Site) (i j : Nat) :
    (scan goesOn stop last ms scope s i).Alike (scan goesOn stop last ms scope t j) := by
  rw [← List.append_nil ms]
  exact scan_append_alike ms (fun _ _ _ _ => .refl _) s t i j

/-- A scan that goes on after another one, unless that stopped, is one scan of all the members. -/
theorem scan_bind_alike (hlast : goesOn last = true) (hstop : goesOn stop = false)
    (ys zs : List Guard) (s t u : Site) (i j k : Nat) :
    (scan goesOn stop last ys scope s i >>= fun value =>
        if goesOn value then scan goesOn stop last zs scope t j else pure stop).Alike
      (scan goesOn stop last (ys ++ zs) scope u k) := by
  induction ys generalizing i k with
  | nil =>
    -- the first scan came to its end, and its value there makes the second one begin
    rw [scan, pure_bind, if_pos hlast]
    exact scan_alike zs t u j k
  | cons y ys ih =>
    rw [List.cons_append, scan, scan, bind_assoc]
    refine (evaluate_alike y scope _ _).bind fun value => ?_
    split
    · exact ih (i + 1) (k + 1)
    · -- it was stopped, and its value stops the second one before it begins
      rw [pure_bind, if_neg (by simp [hstop])]
      exact .refl _

/-- A member that is evaluated by a scan of its own can give way to the members of that scan. -/
theorem scan_flatten_alike {combination : Guard} {ys : List Guard}
    (hlast : goesOn last = true) (hstop : goesOn stop = false)
    (h : ∀ s, combination.evaluate scope s = scan goesOn stop last ys scope s 0)
    (xs zs : List Guard) (s t : Site) :
    (scan goesOn stop last (xs ++ [combination] ++ zs) scope s 0).Alike
      (scan goesOn stop last (xs ++ ys ++ zs) scope t 0) := by
  rw [List.append_assoc, List.append_assoc]
  refine scan_append_alike xs (fun s t i j => ?_) s t 0 0
  rw [List.singleton_append, scan, h]
  exact scan_bind_alike hlast hstop ys zs _ _ _ _ _ _

/-! ## Scans of negations -/

/-- What the negation of a guard is worth. -/
def negated (value : Value) : Value := .bool (!value.isTruthy)

theorem evaluate_not (guard : Guard) (scope : Scope) (site : Site) :
    (not guard).evaluate scope site = negated <$> guard.evaluate scope (site ++ [0]) := by
  rw [evaluate, bind_pure_comp]
  rfl

/-- The negation of a scan is the scan of the negations, if that goes on past the negations of what
the scan goes on past. -/
theorem scan_map_not_alike (hgoesOn : ∀ value, goesOn' (negated value) = goesOn value)
    (ms : List Guard) (s t : Site) (i j : Nat) :
    (negated <$> scan goesOn stop last ms scope s i).Alike
      (scan goesOn' (negated stop) (negated last) (ms.map not) scope t j) := by
  induction ms generalizing i j with
  | nil =>
    rw [scan, map_pure]
    exact .refl _
  | cons m ms ih =>
    rw [List.map_cons, scan, scan, map_bind, evaluate_not, bind_map_left]
    refine (evaluate_alike m scope _ _).bind fun value => ?_
    rw [hgoesOn]
    split
    · exact ih (i + 1) (j + 1)
    · rw [map_pure]
      exact .refl _

/-! ## Truth values -/

/-- A scan comes to one of two values. -/
theorem result_scan_eq_ok {ms : List Guard} {site : Site} {index : Nat} {value : Value}
    (h : (scan goesOn stop last ms scope site index).result = .ok value) :
    value = stop ∨ value = last := by
  induction ms generalizing index with
  | nil =>
    rw [scan, Run.result_pure] at h
    exact .inr (Except.ok.inj h).symm
  | cons m ms ih =>
    rw [scan, Run.result_bind, bind_eq_ok] at h
    obtain ⟨first, -, h⟩ := h
    split at h
    · exact ih h
    · exact .inl (Except.ok.inj h).symm

theorem truth_all {members : List Guard} {value : Value}
    (h : (all members).value scope = .ok value) : ∃ b, value = .bool b := by
  rw [Guard.value, evaluate, evaluateAll_eq_scan] at h
  rcases result_scan_eq_ok h with rfl | rfl <;> exact ⟨_, rfl⟩

theorem truth_any {members : List Guard} {value : Value}
    (h : (any members).value scope = .ok value) : ∃ b, value = .bool b := by
  rw [Guard.value, evaluate, evaluateAny_eq_scan] at h
  rcases result_scan_eq_ok h with rfl | rfl <;> exact ⟨_, rfl⟩

theorem truth_not {guard : Guard} {value : Value} (h : (not guard).value scope = .ok value) :
    ∃ b, value = .bool b := by
  rw [Guard.value, evaluate_not, Run.result_map, map_eq_ok] at h
  obtain ⟨inner, -, rfl⟩ := h
  exact ⟨_, rfl⟩

/-! ## The laws -/

theorem not_all_equivalent (members : List Guard) :
    (not (all members)).Equivalent (any (members.map not)) where
  alike scope s t := by
    rw [evaluate_not, evaluate, evaluate, evaluateAll_eq_scan, evaluateAny_eq_scan]
    exact scan_map_not_alike (by simp [negated, Value.isTruthy]) members _ _ _ _
  truth _ _ := truth_not

theorem not_any_equivalent (members : List Guard) :
    (not (any members)).Equivalent (all (members.map not)) where
  alike scope s t := by
    rw [evaluate_not, evaluate, evaluate, evaluateAll_eq_scan, evaluateAny_eq_scan]
    exact scan_map_not_alike (by simp [negated, Value.isTruthy]) members _ _ _ _
  truth _ _ := truth_not

theorem all_flatten_equivalent (xs ys zs : List Guard) :
    (all (xs ++ [all ys] ++ zs)).Equivalent (all (xs ++ ys ++ zs)) where
  alike scope s t := by
    rw [evaluate, evaluate, evaluateAll_eq_scan, evaluateAll_eq_scan]
    refine scan_flatten_alike rfl rfl (fun s => ?_) xs zs s t
    rw [evaluate, evaluateAll_eq_scan]
  truth _ _ := truth_all

theorem any_flatten_equivalent (xs ys zs : List Guard) :
    (any (xs ++ [any ys] ++ zs)).Equivalent (any (xs ++ ys ++ zs)) where
  alike scope s t := by
    rw [evaluate, evaluate, evaluateAny_eq_scan, evaluateAny_eq_scan]
    refine scan_flatten_alike rfl rfl (fun s => ?_) xs zs s t
    rw [evaluate, evaluateAny_eq_scan]
  truth _ _ := truth_any

/-- De Morgan's laws and flattening, for all guards: those that fail and those whose values are no
truth values included. -/
theorem connectives_equivalent (members xs ys zs : List Guard) :
    (not (all members)).Equivalent (any (members.map not)) ∧
      (not (any members)).Equivalent (all (members.map not)) ∧
      (all (xs ++ [all ys] ++ zs)).Equivalent (all (xs ++ ys ++ zs)) ∧
      (any (xs ++ [any ys] ++ zs)).Equivalent (any (xs ++ ys ++ zs)) :=
  ⟨not_all_equivalent members, not_any_equivalent members, all_flatten_equivalent xs ys zs,
    any_flatten_equivalent xs ys zs⟩

end Destructure.Guard
