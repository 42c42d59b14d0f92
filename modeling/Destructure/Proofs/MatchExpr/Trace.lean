import Destructure.MatchExpr.Trace
import Destructure.Proofs.MatchExpr.Selection

set_option autoImplicit false

/-! # What a trace tells

The traced evaluation tries the clauses by a loop of its own, which keeps what it learns about each of
them. Forgetting the steps gives the plain evaluation back, with its calls
(`MatchExpr.evaluate_eq_bind_evaluateWithTrace`), so the two can differ in one way only: an exhausted
expression has a trace, and it is an error of the plain evaluation.

What the steps are worth is said of one step first (`ClauseStep.Tells`), and then of all steps of a
trace with the selection that they lead to (`Trace.Records`). -/

namespace Destructure

variable {α : Type}

/-- The bindings of a step that lets its clause be selected. -/
def ClauseStep.taken (step : ClauseStep) : Option Bindings :=
  if step.guard.admits then some step.bindings else none

/-- The number of the selected clause; the default has none. -/
def Trace.clause? (trace : Trace α) : Option Nat := trace.selected.bind (·.clause)

/-- What a step tells about the clause that was tried: what its pattern made of the subject, and what
its guard, if it has one, was worth in the scope of the bindings. -/
structure ClauseStep.Tells (step : ClauseStep) (clause : Clause α) (subject : Value)
    (scope : Scope) : Prop where
  outcome : clause.pattern.outcome subject scope
    = .ok (if step.matched then .matched step.bindings else .noMatch)
  empty : step.matched = false → step.bindings = .empty
  notReached_iff : step.guard = .notReached ↔ step.matched = false
  absent_iff : step.guard = .absent ↔ step.matched = true ∧ clause.guard = none
  verdict : ∀ guard, clause.guard = some guard → step.matched = true →
    ∃ value, guard.value (scope.child step.bindings) = .ok value ∧
      step.guard = if value.isTruthy then .passed else .rejected

/-! ## One step -/

namespace Clause

variable {clause : Clause α} {index : Nat} {subject : Value} {scope : Scope}

/-- The step of a clause whose pattern has matched: what is left to tell is up to its guard. -/
def stepAfterMatch (clause : Clause α) (index : Nat) (scope : Scope) (b : Bindings) :
    Run MatchError ClauseStep :=
  match clause.guard with
  | none => pure ⟨index, true, .absent, b⟩
  | some guard => do
    let value ← verdict guard index (scope.child b)
    return ⟨index, true, if value.isTruthy then .passed else .rejected, b⟩

theorem step_eq : clause.step index subject scope =
    clause.pattern.matchIn subject scope [index, 0] >>= fun
      | .noMatch => pure ⟨index, false, .notReached, .empty⟩
      | .matched b => clause.stepAfterMatch index scope b := rfl

theorem afterMatch_eq_map (b : Bindings) :
    clause.afterMatch index scope b
      = ClauseStep.taken <$> clause.stepAfterMatch index scope b := by
  unfold afterMatch stepAfterMatch
  cases clause.guard with
  | none => rw [map_pure]; rfl
  | some guard =>
    dsimp only
    rw [map_bind]
    congr 1
    funext value
    rw [map_pure]
    cases value.isTruthy <;> rfl

/-- A clause takes the subject when its step admits it, and makes the same calls for that. -/
theorem take_eq_map_step :
    clause.take index subject scope = ClauseStep.taken <$> clause.step index subject scope := by
  rw [take_eq, step_eq, map_bind]
  congr 1
  funext outcome
  cases outcome with
  | noMatch => rw [map_pure]; rfl
  | matched b => exact afterMatch_eq_map b

theorem tells_of_stepAfterMatch {b : Bindings} {step : ClauseStep}
    (houtcome : clause.pattern.outcome subject scope = .ok (.matched b))
    (h : (clause.stepAfterMatch index scope b).result = .ok step) :
    step.index = index ∧ step.Tells clause subject scope := by
  unfold stepAfterMatch at h
  cases hguard : clause.guard with
  | none =>
    rw [hguard] at h
    obtain rfl := Except.ok.inj h
    refine ⟨rfl, houtcome, by simp, by simp, by simp [hguard], ?_⟩
    simp [hguard]
  | some guard =>
    rw [hguard] at h
    simp only [bind_pure_comp, Run.result_map, map_eq_ok, verdict_eq_ok] at h
    obtain ⟨value, hvalue, rfl⟩ := h
    refine ⟨rfl, houtcome, by simp, ?_, ?_, ?_⟩
    · cases value.isTruthy <;> simp
    · cases value.isTruthy <;> simp [hguard]
    · rintro guard' hguard' -
      obtain rfl := Option.some.inj (hguard.symm.trans hguard')
      exact ⟨value, hvalue, rfl⟩

/-- A step carries the number of its clause and tells the truth about it. -/
theorem tells_of_step {step : ClauseStep} (h : (clause.step index subject scope).result = .ok step) :
    step.index = index ∧ step.Tells clause subject scope := by
  rw [step_eq, Run.result_bind, bind_eq_ok, Compiled.result_matchIn] at h
  obtain ⟨outcome, houtcome, hnext⟩ := h
  cases outcome with
  | noMatch =>
    obtain rfl := Except.ok.inj hnext
    exact ⟨rfl, houtcome, fun _ => rfl, by simp, by simp, by simp⟩
  | matched b => exact tells_of_stepAfterMatch houtcome hnext

end Clause

/-! ## The steps of a trace -/

/-- What a trace keeps of the clauses from number `index` on: the steps are numbered without gaps and
tell about the clauses in their order; either none of them admits its clause and no clause is left, or
the last one does and no other, and its clause is the selected one. -/
structure Trace.Records (trace : Trace α) (clauses : List (Clause α)) (index : Nat)
    (subject : Value) (scope : Scope) : Prop where
  indices : trace.steps.map (·.index) = List.range' index trace.steps.length
  tells : ∀ (i : Nat) (step : ClauseStep), trace.steps[i]? = some step →
    ∃ clause, clauses[i]? = some clause ∧ step.Tells clause subject scope
  selection : trace.selected = none ∧ trace.steps.length = clauses.length ∧
      (∀ step ∈ trace.steps, ¬ step.guard.admits) ∨
    ∃ before last clause, trace.steps = before ++ [last] ∧ clauses[before.length]? = some clause ∧
      (∀ step ∈ before, ¬ step.guard.admits) ∧ last.guard.admits ∧
      trace.selected = some ⟨some (index + before.length), clause.body, last.bindings⟩

namespace Trace.Records

variable {clause : Clause α} {clauses : List (Clause α)} {index : Nat} {subject : Value}
  {scope : Scope} {step : ClauseStep}

theorem nil : (⟨none, [], false⟩ : Trace α).Records [] index subject scope where
  indices := rfl
  tells := by simp
  selection := .inl ⟨rfl, rfl, by simp⟩

/-- A step that admits its clause ends the trace. -/
theorem last (hindex : step.index = index) (hstep : step.Tells clause subject scope)
    (hadmits : step.guard.admits) :
    (⟨some ⟨some index, clause.body, step.bindings⟩, [step], false⟩ : Trace α).Records
      (clause :: clauses) index subject scope where
  indices := by simp [hindex]
  tells := by
    intro i found hfound
    cases i with
    | zero =>
      obtain rfl : step = found := by simpa using hfound
      exact ⟨clause, rfl, hstep⟩
    | succ i => simp at hfound
  selection := .inr ⟨[], step, clause, rfl, rfl, by simp, hadmits, rfl⟩

/-- A step that does not admit its clause goes before the steps of the other clauses. -/
theorem cons {trace : Trace α} (hindex : step.index = index)
    (hstep : step.Tells clause subject scope) (hrejects : ¬ step.guard.admits)
    (h : trace.Records clauses (index + 1) subject scope) :
    { trace with steps := step :: trace.steps : Trace α }.Records (clause :: clauses) index subject
      scope where
  indices := by
    rw [List.map_cons, hindex, h.indices, List.length_cons, List.range'_succ]
  tells := by
    intro i found hfound
    cases i with
    | zero =>
      obtain rfl : step = found := by simpa using hfound
      exact ⟨clause, rfl, hstep⟩
    | succ i => exact h.tells i found (by simpa using hfound)
  selection := by
    rcases h.selection with ⟨hnone, hlength, hall⟩ |
      ⟨before, last, c, hsteps, hc, hbefore, hlast, hselected⟩
    · refine .inl ⟨hnone, by simp [hlength], ?_⟩
      exact List.forall_mem_cons.2 ⟨hrejects, hall⟩
    · refine .inr ⟨step :: before, last, c, by simp [hsteps], by simpa using hc, ?_, hlast, ?_⟩
      · exact List.forall_mem_cons.2 ⟨hrejects, hbefore⟩
      · rw [hselected, List.length_cons, Nat.add_assoc, Nat.add_comm 1]

end Trace.Records

/-! ## The loop over the clauses -/

namespace MatchExpr

variable {subject : Value} {scope : Scope}

theorem traceFrom_cons (clause : Clause α) (rest : List (Clause α)) (index : Nat) :
    traceFrom (clause :: rest) index subject scope =
      clause.step index subject scope >>= fun step =>
        if step.guard.admits then
          pure ⟨some ⟨some index, clause.body, step.bindings⟩, [step], false⟩
        else (fun trace => { trace with steps := step :: trace.steps })
          <$> traceFrom rest (index + 1) subject scope := rfl

/-- The plain loop is the traced one without its steps. -/
theorem selectFrom_eq_map_traceFrom (clauses : List (Clause α)) (index : Nat) :
    selectFrom clauses index subject scope
      = Trace.selected <$> traceFrom clauses index subject scope := by
  induction clauses generalizing index with
  | nil => rw [selectFrom, traceFrom, map_pure]
  | cons clause rest ih =>
    rw [selectFrom_cons, traceFrom_cons, Clause.take_eq_map_step, map_bind, bind_map_left]
    congr 1
    funext step
    unfold ClauseStep.taken
    cases step.guard.admits with
    | true => simp
    | false => simp [ih]

/-- A trace records the clauses that it has been through. -/
theorem records_of_traceFrom {clauses : List (Clause α)} {index : Nat} {trace : Trace α}
    (h : (traceFrom clauses index subject scope).result = .ok trace) :
    trace.Records clauses index subject scope ∧ trace.usedDefault = false := by
  induction clauses generalizing index trace with
  | nil =>
    obtain rfl := Except.ok.inj h
    exact ⟨.nil, rfl⟩
  | cons clause rest ih =>
    rw [traceFrom_cons, Run.result_bind, bind_eq_ok] at h
    obtain ⟨step, hstep, hnext⟩ := h
    obtain ⟨hindex, htells⟩ := Clause.tells_of_step hstep
    split at hnext
    · next hadmits =>
      obtain rfl := Except.ok.inj hnext
      exact ⟨.last hindex htells hadmits, rfl⟩
    · next hrejects =>
      rw [Run.result_map, map_eq_ok] at hnext
      obtain ⟨others, hothers, rfl⟩ := hnext
      obtain ⟨hrecords, hdefault⟩ := ih hothers
      exact ⟨hrecords.cons hindex htells hrejects, hdefault⟩

/-- The loop fails in a clause, never by exhaustion. -/
theorem not_isExhausted_of_traceFrom {clauses : List (Clause α)} {index : Nat} {e : MatchError}
    (h : (traceFrom clauses index subject scope).result = .error e) : ¬ e.isExhausted := by
  have hselect : (selectFrom clauses index subject scope).result = .error e := by
    rw [selectFrom_eq_map_traceFrom, Run.result_map, h]
    rfl
  obtain ⟨i, clause, -, htake⟩ := (selectFrom_eq_error index).1 hselect
  rcases Clause.take_eq_error.1 htake with houtcome | ⟨source, -, rfl⟩
  · exact MatchError.not_isExhausted (Compiled.outcome_fault houtcome)
  · exact Bool.false_ne_true

/-! ## The traced evaluation -/

variable {expr : MatchExpr α}

/-- The trace of an evaluation from that of its clauses: without a selected clause the default is
selected, if there is one. -/
def conclude (expr : MatchExpr α) (trace : Trace α) : Trace α :=
  match trace.selected, expr.default with
  | none, some body => { trace with selected := some ⟨none, body, .empty⟩, usedDefault := true }
  | _, _ => trace

theorem evaluateWithTrace_eq_map : expr.evaluateWithTrace subject scope
    = expr.conclude <$> traceFrom expr.clauses 0 subject scope := by
  rw [map_eq_pure_bind, evaluateWithTrace]
  congr 1
  funext trace
  unfold conclude
  cases trace.selected <;> cases expr.default <;> rfl

@[simp] theorem steps_conclude (trace : Trace α) : (expr.conclude trace).steps = trace.steps := by
  unfold conclude
  split <;> rfl

/-- The default has no number, so it does not change which clause is selected. -/
@[simp] theorem clause?_conclude (trace : Trace α) :
    (expr.conclude trace).clause? = trace.clause? := by
  unfold conclude
  split
  · next hnone _ => simp [Trace.clause?, hnone]
  · rfl

/-- The answer of an evaluation whose trace is known. -/
def answer (expr : MatchExpr α) (trace : Trace α) : Run MatchError (Selection α) :=
  match trace.selected with
  | some selection => pure selection
  | none => .fail (.exhausted expr.clauses.length)

theorem answer_eq_ok {trace : Trace α} {selection : Selection α} :
    (expr.answer trace).result = .ok selection ↔ trace.selected = some selection := by
  unfold answer
  cases trace.selected <;> simp

theorem answer_eq_error {trace : Trace α} {e : MatchError} :
    (expr.answer trace).result = .error e ↔
      trace.selected = none ∧ .exhausted expr.clauses.length = e := by
  unfold answer
  cases trace.selected <;> simp

theorem answer_conclude (trace : Trace α) :
    expr.answer (expr.conclude trace) =
      match trace.selected with
      | some selection => pure selection
      | none => .ofExcept expr.fallback := by
  unfold answer conclude fallback
  cases hselected : trace.selected with
  | some selection => simp [hselected]
  | none =>
    cases expr.default with
    | none => simp [hselected, Run.fail, Run.ofExcept]
    | some body => rfl

/-- The plain evaluation is the traced one, with its calls, up to the answer for an exhausted
expression. -/
theorem evaluate_eq_bind_evaluateWithTrace : expr.evaluate subject scope
    = expr.evaluateWithTrace subject scope >>= expr.answer := by
  rw [evaluateWithTrace_eq_map, bind_map_left, evaluate, selectFrom_eq_map_traceFrom, bind_map_left]
  congr 1
  funext trace
  exact (answer_conclude trace).symm

/-- The default is used exactly when it is selected. -/
theorem usedDefault_of_evaluateWithTrace {trace : Trace α}
    (h : (expr.evaluateWithTrace subject scope).result = .ok trace) :
    trace.usedDefault = trace.selected.any Selection.isDefault := by
  rw [evaluateWithTrace_eq_map, Run.result_map, map_eq_ok] at h
  obtain ⟨found, hfound, rfl⟩ := h
  obtain ⟨hrecords, hdefault⟩ := records_of_traceFrom hfound
  unfold conclude
  rcases hrecords.selection with ⟨hnone, -⟩ | ⟨before, last, clause, -, -, -, -, hselected⟩
  · cases expr.default with
    | none => simp [hnone, hdefault]
    | some body => simp [hnone, Selection.isDefault]
  · simp [hselected, hdefault, Selection.isDefault]

/-- The number of steps of a trace, and which of them admits its clause. -/
theorem steps_of_records {trace : Trace α} {clauses : List (Clause α)}
    (h : trace.Records clauses 0 subject scope) :
    trace.steps.length = trace.clause?.elim clauses.length (· + 1) ∧
      ∀ i step, trace.steps[i]? = some step → (step.guard.admits ↔ trace.clause? = some i) := by
  rcases h.selection with ⟨hnone, hlength, hall⟩ |
    ⟨before, last, clause, hsteps, -, hbefore, hlast, hselected⟩
  · have hclause : trace.clause? = none := by simp [Trace.clause?, hnone]
    rw [hclause]
    refine ⟨hlength, fun i step hstep => ?_⟩
    simpa using hall step (List.mem_of_getElem? hstep)
  · have hclause : trace.clause? = some before.length := by simp [Trace.clause?, hselected]
    rw [hclause, hsteps]
    refine ⟨by simp, fun i step hstep => ?_⟩
    rcases Nat.lt_trichotomy i before.length with hlt | rfl | hgt
    · rw [List.getElem?_append_left hlt] at hstep
      have hrejects := hbefore step (List.mem_of_getElem? hstep)
      exact iff_of_false hrejects (by simp [hlt.ne'])
    · obtain rfl : last = step := by simpa using hstep
      simp [hlast]
    · rw [List.getElem?_eq_none (by simp; omega)] at hstep
      cases hstep

/-- What the traced evaluation has to do with the plain one, and what its steps are worth.

* It selects what the plain one selects, with the same bindings, and says whether that is the default.
* It has a trace without a selection where the plain one is exhausted.
* Every other failure of one is a failure of the other.
* The steps are numbered from 0 without gaps. If a clause is selected there is one for each clause up
  to that one, and otherwise one for every clause.
* Each step tells about its clause, and it admits the clause exactly when that is the selected one. -/
theorem evaluateWithTrace_spec (expr : MatchExpr α) (subject : Value) (scope : Scope) :
    (∀ selection, (expr.evaluate subject scope).result = .ok selection ↔
      ∃ trace, (expr.evaluateWithTrace subject scope).result = .ok trace ∧
        trace.selected = some selection ∧ trace.usedDefault = selection.isDefault) ∧
    (∀ n, (expr.evaluate subject scope).result = .error (.exhausted n) ↔
      n = expr.clauses.length ∧ ∃ trace, (expr.evaluateWithTrace subject scope).result = .ok trace ∧
        trace.selected = none ∧ trace.usedDefault = false) ∧
    (∀ e, (expr.evaluateWithTrace subject scope).result = .error e ↔
      (expr.evaluate subject scope).result = .error e ∧ ¬ e.isExhausted) ∧
    ∀ trace, (expr.evaluateWithTrace subject scope).result = .ok trace →
      trace.steps.map (·.index) = List.range trace.steps.length ∧
      trace.steps.length = trace.clause?.elim expr.clauses.length (· + 1) ∧
      ∀ i step, trace.steps[i]? = some step →
        ∃ clause, expr.clauses[i]? = some clause ∧ step.Tells clause subject scope ∧
          (step.guard.admits ↔ trace.clause? = some i) := by
  have hfault : ∀ e, (expr.evaluateWithTrace subject scope).result = .error e →
      ¬ e.isExhausted := by
    intro e he
    rw [evaluateWithTrace_eq_map, Run.result_map, map_eq_error] at he
    exact not_isExhausted_of_traceFrom he
  refine ⟨fun selection => ?_, fun n => ?_, fun e => ?_, fun trace htrace => ?_⟩
  · rw [evaluate_eq_bind_evaluateWithTrace, Run.result_bind, bind_eq_ok]
    refine exists_congr fun trace => and_congr_right fun htrace => ?_
    rw [answer_eq_ok, usedDefault_of_evaluateWithTrace htrace]
    exact ⟨fun h => ⟨h, by rw [h]; rfl⟩, fun h => h.1⟩
  · rw [evaluate_eq_bind_evaluateWithTrace, Run.result_bind, bind_eq_error]
    constructor
    · rintro (he | ⟨trace, htrace, hanswer⟩)
      · exact absurd rfl (hfault _ he)
      · obtain ⟨hnone, hn⟩ := answer_eq_error.1 hanswer
        refine ⟨(MatchError.exhausted.inj hn).symm, trace, htrace, hnone, ?_⟩
        rw [usedDefault_of_evaluateWithTrace htrace, hnone]
        rfl
    · rintro ⟨rfl, trace, htrace, hnone, -⟩
      exact .inr ⟨trace, htrace, answer_eq_error.2 ⟨hnone, rfl⟩⟩
  · rw [evaluate_eq_bind_evaluateWithTrace, Run.result_bind, bind_eq_error]
    constructor
    · exact fun he => ⟨.inl he, hfault e he⟩
    · rintro ⟨he | ⟨trace, -, hanswer⟩, hexhausted⟩
      · exact he
      · obtain ⟨-, rfl⟩ := answer_eq_error.1 hanswer
        exact absurd rfl hexhausted
  · rw [evaluateWithTrace_eq_map, Run.result_map, map_eq_ok] at htrace
    obtain ⟨found, hfound, rfl⟩ := htrace
    obtain ⟨hrecords, -⟩ := records_of_traceFrom hfound
    obtain ⟨hlength, hadmits⟩ := steps_of_records hrecords
    rw [steps_conclude, clause?_conclude]
    refine ⟨by rw [hrecords.indices, List.range_eq_range'], hlength, fun i step hstep => ?_⟩
    obtain ⟨clause, hclause, htells⟩ := hrecords.tells i step hstep
    exact ⟨clause, hclause, htells, hadmits i step hstep⟩

/-- The first clause is tried and rejected by its guard, the second one is selected. -/
theorem evaluateWithTrace_spec_nullPairs :
    ∃ trace, (nullPairs.evaluateWithTrace (.sequence [.null, .bool true]) .root).result = .ok trace ∧
      trace.clause? = some 1 ∧ trace.usedDefault = false ∧
      trace.steps.map (·.guard) = [.rejected, .absent] ∧
      ∃ step clause, trace.steps[0]? = some step ∧ nullPairs.clauses[0]? = some clause ∧
        step.Tells clause (.sequence [.null, .bool true]) .root := by
  obtain ⟨-, -, -, hsteps⟩ :=
    evaluateWithTrace_spec nullPairs (.sequence [.null, .bool true]) .root
  let b := (Bindings.empty.bind "pair" (.sequence [.null, .bool true])).bind "item" (.bool true)
  let steps : List ClauseStep := [⟨0, true, .rejected, b⟩, ⟨1, true, .absent, b⟩]
  have htrace : (nullPairs.evaluateWithTrace (.sequence [.null, .bool true]) .root).result
      = .ok ⟨some ⟨some 1, "one null", b⟩, steps, false⟩ := by cbv
  obtain ⟨-, -, htells⟩ := hsteps _ htrace
  obtain ⟨clause, hclause, htells, -⟩ := htells 0 _ rfl
  exact ⟨_, htrace, rfl, rfl, rfl, _, clause, rfl, hclause, htells⟩

end MatchExpr

end Destructure
