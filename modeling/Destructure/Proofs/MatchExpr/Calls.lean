import Destructure.Proofs.Guard.Calls
import Destructure.Proofs.Matching.Calls
import Destructure.Proofs.MatchExpr.Trace

set_option autoImplicit false

/-! # The calls of an evaluation

A clause that is tried makes the calls of its pattern and, if that matches, those of its guard
(`Clause.calls`). An evaluation makes the calls of all clauses up to the one that ends it, clause by
clause, and no others, with a trace or without one (`MatchExpr.CallsInOrder`). In what order one
pattern or one guard makes its calls is said in `Compiled.CallsInOrder` and `Guard.CallsInOrder`. -/

namespace Destructure

variable {α : Type} {subject : Value} {scope : Scope}

namespace Clause

variable {clause : Clause α} {index : Nat}

/-- The calls of clause `index`, if it is tried: those of its pattern and, if that matches, those of
its guard in the scope of the bindings. -/
def calls (clause : Clause α) (index : Nat) (subject : Value) (scope : Scope) : List Call :=
  (clause.pattern.matchIn subject scope [index, 0]).calls ++
    match clause.pattern.outcome subject scope, clause.guard with
    | .ok (.matched b), some guard => (guard.evaluate (scope.child b) [index, 1]).calls
    | _, _ => []

theorem calls_afterMatch (b : Bindings) : (clause.afterMatch index scope b).calls =
    match clause.guard with
    | some guard => (guard.evaluate (scope.child b) [index, 1]).calls
    | none => [] := by
  unfold afterMatch
  cases clause.guard with
  | none => rfl
  | some guard => simp [verdict]

theorem calls_take : (clause.take index subject scope).calls = clause.calls index subject scope := by
  have hresult := clause.pattern.result_matchIn subject scope [index, 0]
  rw [take_eq, calls]
  cases houtcome : clause.pattern.outcome subject scope with
  | error e => rw [Run.calls_bind_of_error (hresult.trans houtcome), List.append_nil]
  | ok outcome =>
    rw [Run.calls_bind_of_ok (hresult.trans houtcome)]
    cases outcome with
    | noMatch => rfl
    | matched b =>
      dsimp only
      rw [calls_afterMatch]
      cases clause.guard <;> rfl

theorem Takes.not_skips {b : Bindings} (h : clause.Takes subject scope b) :
    ¬ clause.Skips subject scope := by
  intro hskips
  have htake : (clause.take 0 subject scope).result = .ok (some b) := take_eq_some.2 h
  rw [take_eq_none.2 hskips] at htake
  cases htake

theorem not_skips_of_error {e : MatchError} (h : (clause.take index subject scope).result = .error e) :
    ¬ clause.Skips subject scope := by
  intro hskips
  rw [take_eq_none.2 hskips] at h
  cases h

end Clause

namespace MatchExpr

/-- The calls of these clauses, which are numbered from `index` on, if all of them are tried. -/
def callsOf (clauses : List (Clause α)) (index : Nat) (subject : Value) (scope : Scope) :
    List Call :=
  (clauses.zipIdx index).flatMap fun c => c.1.calls c.2 subject scope

@[simp] theorem callsOf_cons (clause : Clause α) (rest : List (Clause α)) (index : Nat) :
    callsOf (clause :: rest) index subject scope
      = clause.calls index subject scope ++ callsOf rest (index + 1) subject scope := by
  rw [callsOf, List.zipIdx_cons, List.flatMap_cons, callsOf]

/-- Clauses that are all skipped are all tried. -/
theorem calls_selectFrom_of_skips {clauses : List (Clause α)} {index : Nat}
    (h : ∀ c ∈ clauses, c.Skips subject scope) :
    (selectFrom clauses index subject scope).calls = callsOf clauses index subject scope := by
  induction clauses generalizing index with
  | nil => rfl
  | cons clause rest ih =>
    rw [List.forall_mem_cons] at h
    rw [selectFrom_cons, Run.calls_bind_of_ok (Clause.take_eq_none.2 h.1), Clause.calls_take,
      callsOf_cons]
    exact congrArg _ (ih h.2)

/-- Behind a clause that is not skipped, no clause is tried. -/
theorem calls_selectFrom_of_reaches {clauses : List (Clause α)} {index i : Nat} {clause : Clause α}
    (h : Reaches clauses subject scope i clause) (hstops : ¬ clause.Skips subject scope) :
    (selectFrom clauses index subject scope).calls
      = callsOf (clauses.take (i + 1)) index subject scope := by
  obtain ⟨hclause, hskips⟩ := h
  induction clauses generalizing index i with
  | nil => simp at hclause
  | cons first rest ih =>
    rw [selectFrom_cons, List.take_succ_cons, callsOf_cons, ← Clause.calls_take]
    cases i with
    | zero =>
      obtain rfl : first = clause := by simpa using hclause
      rw [List.take_zero]
      cases hresult : (first.take index subject scope).result with
      | error e => rw [Run.calls_bind_of_error hresult]; exact (List.append_nil _).symm
      | ok found =>
        rw [Run.calls_bind_of_ok hresult]
        cases found with
        | none => exact absurd (Clause.take_eq_none.1 hresult) hstops
        | some b => rfl
    | succ i =>
      rw [List.take_succ_cons, List.forall_mem_cons] at hskips
      rw [Run.calls_bind_of_ok (Clause.take_eq_none.2 hskips.1)]
      exact congrArg _ (ih (by simpa using hclause) hskips.2)

/-! ## The calls of one evaluation -/

variable {expr : MatchExpr α}

/-- What is known of the calls of one evaluation.

* If clause `i` is selected, the clauses up to that one make their calls, and no others do.
* If the evaluation fails in a clause, the clauses up to that one make their calls, and no others do.
* If no clause takes the subject, all clauses make their calls.
* An evaluation with a trace makes the same calls. -/
structure CallsInOrder (expr : MatchExpr α) (subject : Value) (scope : Scope) : Prop where
  selected : ∀ i body b, (expr.evaluate subject scope).result = .ok ⟨some i, body, b⟩ →
    (expr.evaluate subject scope).calls = callsOf (expr.clauses.take (i + 1)) 0 subject scope
  failed : ∀ e, (expr.evaluate subject scope).result = .error e → ¬ e.isExhausted →
    ∃ i clause, Reaches expr.clauses subject scope i clause ∧
      (clause.take i subject scope).result = .error e ∧
      (expr.evaluate subject scope).calls = callsOf (expr.clauses.take (i + 1)) 0 subject scope
  passed : (∃ body b, (expr.evaluate subject scope).result = .ok ⟨none, body, b⟩) ∨
      (∃ n, (expr.evaluate subject scope).result = .error (.exhausted n)) →
    (expr.evaluate subject scope).calls = callsOf expr.clauses 0 subject scope
  traced : (expr.evaluateWithTrace subject scope).calls = (expr.evaluate subject scope).calls

/-- All calls are made while the clauses are tried. -/
theorem calls_evaluate : (expr.evaluate subject scope).calls
    = (selectFrom expr.clauses 0 subject scope).calls := by
  rw [evaluate]
  cases hresult : (selectFrom expr.clauses 0 subject scope).result with
  | error e => rw [Run.calls_bind_of_error hresult]
  | ok found =>
    rw [Run.calls_bind_of_ok hresult]
    cases found <;> exact List.append_nil _

theorem calls_answer (trace : Trace α) : (expr.answer trace).calls = [] := by
  unfold answer
  cases trace.selected <;> rfl

theorem calls_evaluateWithTrace : (expr.evaluateWithTrace subject scope).calls
    = (expr.evaluate subject scope).calls := by
  rw [evaluate_eq_bind_evaluateWithTrace]
  cases hresult : (expr.evaluateWithTrace subject scope).result with
  | error e => rw [Run.calls_bind_of_error hresult]
  | ok trace => rw [Run.calls_bind_of_ok hresult, calls_answer, List.append_nil]

theorem callsInOrder (expr : MatchExpr α) (subject : Value) (scope : Scope) :
    expr.CallsInOrder subject scope where
  selected i body b h := by
    obtain ⟨clause, hreaches, htakes, -⟩ := evaluate_eq_clause.1 h
    rw [calls_evaluate, calls_selectFrom_of_reaches hreaches htakes.not_skips]
  failed e h he := by
    obtain ⟨i, clause, hreaches, hfails⟩ := (evaluate_eq_error_of_not_exhausted he).1 h
    have htake : (clause.take i subject scope).result = .error e := Clause.take_eq_error.2 hfails
    refine ⟨i, clause, hreaches, htake, ?_⟩
    rw [calls_evaluate, calls_selectFrom_of_reaches hreaches (Clause.not_skips_of_error htake)]
  passed h := by
    have hskips : ∀ c ∈ expr.clauses, c.Skips subject scope := by
      rcases h with ⟨body, b, h⟩ | ⟨n, h⟩
      · exact (evaluate_eq_default.1 h).1
      · exact (evaluate_eq_exhausted.1 h).1
    rw [calls_evaluate, calls_selectFrom_of_skips hskips]
  traced := calls_evaluateWithTrace

/-- Extensions are called in order, by every pattern, every guard and every match expression: a match
calls its extensions in the order of their numbers and stops at the first failure, a guard evaluates
its leaves in the order of theirs, and an evaluation makes the calls of its clauses one clause after
the other. -/
theorem calls_inOrder :
    (∀ (c : Compiled) (subject : Value) (scope : Scope) (site : Site),
      c.CallsInOrder subject scope site) ∧
    (∀ (guard : Guard) (scope : Scope) (site : Site), guard.CallsInOrder scope site) ∧
    ∀ (α : Type) (expr : MatchExpr α) (subject : Value) (scope : Scope),
      expr.CallsInOrder subject scope :=
  ⟨Compiled.callsInOrder, Guard.callsInOrder, fun _ => callsInOrder⟩

/-- A number, a text or a truth value. -/
def scalar : Compiled where
  pattern := .alternation [.extractor (.ofKind .number) none, .extractor (.ofKind .text) none,
    .extractor (.ofKind .bool) none]
  binders := []
  depth := 2
  accepted := by cbv

/-- Its guard asks for a name that nothing binds. -/
def guardedScalar : MatchExpr String where
  clauses := [⟨scalar, some (.any [.bound "x", .compare "x" .eq .null, .bound "x"]), "guarded"⟩,
    ⟨scalar, none, "plain"⟩]
  default := none

/-- The third branch is not tried on a text, the third leaf not behind one that fails, and the second
clause not behind the first one. -/
theorem calls_inOrder_guardedScalar :
    (guardedScalar.evaluate (.text "a") .root).result
        = .error (.guardEvaluation 0 (.unbound "x")) ∧
      (∃ i, (guardedScalar.evaluate (.text "a") .root).calls
        = callsOf (guardedScalar.clauses.take (i + 1)) 0 (.text "a") .root) ∧
      (guardedScalar.evaluate (.text "a") .root).calls.map (·.site)
        = [[0, 0, 0], [0, 0, 1], [0, 1, 0], [0, 1, 1]] := by
  obtain ⟨-, -, hexpr⟩ := calls_inOrder
  have hresult : (guardedScalar.evaluate (.text "a") .root).result
      = .error (.guardEvaluation 0 (.unbound "x")) := by cbv
  obtain ⟨i, -, -, -, hcalls⟩ :=
    (hexpr String guardedScalar (.text "a") .root).failed _ hresult Bool.false_ne_true
  exact ⟨hresult, ⟨i, hcalls⟩, by cbv⟩

end MatchExpr

end Destructure
