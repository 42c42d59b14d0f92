import Destructure.MatchExpr.Evaluation
import Destructure.Proofs.Guard.Evaluation
import Destructure.Proofs.Matching.Accumulator

set_option autoImplicit false

/-! # The selection of a clause

A clause is left in one of three ways: it is skipped, it takes the subject, or it fails, in its
pattern or in its guard (`Clause.take_eq_none`, `Clause.take_eq_some`, `Clause.take_eq_error`).
Evaluation goes on past skipped clauses only, so the first clause that is not skipped decides, and
the default stands in where there is none. `MatchExpr.evaluate_spec` says so for each of the five
answers of an evaluation. -/

namespace Destructure

/-! ## Outcomes -/

namespace Compiled

/-- The outcome for a subject in a scope. -/
def outcome (c : Compiled) (subject : Value) (scope : Scope) : Except MatchError Outcome :=
  (c.matchIn subject scope []).result

/-- The outcome is the same wherever the pattern stands. -/
theorem result_matchIn (c : Compiled) (subject : Value) (scope : Scope) (site : Site) :
    (c.matchIn subject scope site).result = c.outcome subject scope :=
  (matchIn_alike (c.pattern.read_alike scope site [] subject)).result

/-- A pattern fails only through an extractor or a predicate. -/
theorem outcome_fault {c : Compiled} {subject : Value} {scope : Scope} {e : MatchError}
    (h : c.outcome subject scope = .error e) : e.isPatternFault := by
  have hread : (c.pattern.read scope [] subject).result = .error e := by
    rw [← c.matchIn_reads, Run.result_map, result_matchIn, h]
    rfl
  exact Pattern.read_fault hread

end Compiled

/-- Exhaustion is no failure of a pattern. -/
theorem MatchError.not_isExhausted {e : MatchError} (h : e.isPatternFault) :
    ¬ e.isExhausted := by
  cases e with
  | exhausted n => cases h
  | _ => exact Bool.false_ne_true

/-! ## Leaving a clause -/

namespace Clause

variable {α : Type}

/-- The clause is skipped: its pattern does not match, or its guard is falsy in the scope of the
bindings. -/
def Skips (clause : Clause α) (subject : Value) (scope : Scope) : Prop :=
  clause.pattern.outcome subject scope = .ok .noMatch ∨
    ∃ b guard value, clause.pattern.outcome subject scope = .ok (.matched b) ∧
      clause.guard = some guard ∧ guard.value (scope.child b) = .ok value ∧ ¬ value.isTruthy

/-- The clause takes the subject: its pattern matches, and its guard, if there is one, is truthy in
the scope of the bindings. -/
def Takes (clause : Clause α) (subject : Value) (scope : Scope) (b : Bindings) : Prop :=
  clause.pattern.outcome subject scope = .ok (.matched b) ∧
    ∀ guard, clause.guard = some guard →
      ∃ value, guard.value (scope.child b) = .ok value ∧ value.isTruthy

/-- The pattern matches, and the guard fails in the scope of the bindings. -/
def GuardFails (clause : Clause α) (subject : Value) (scope : Scope) (source : GuardError) : Prop :=
  ∃ b guard, clause.pattern.outcome subject scope = .ok (.matched b) ∧ clause.guard = some guard ∧
    guard.value (scope.child b) = .error source

variable {clause : Clause α} {index : Nat} {subject : Value} {scope : Scope}

theorem verdict_eq_ok {guard : Guard} {value : Value} :
    (verdict guard index scope).result = .ok value ↔ guard.value scope = .ok value := by
  rw [verdict, Run.result_mapError_eq_ok, Guard.result_evaluate]

theorem verdict_eq_error {guard : Guard} {e : MatchError} :
    (verdict guard index scope).result = .error e ↔
      ∃ source, guard.value scope = .error source ∧ .guardEvaluation index source = e := by
  rw [verdict, Run.result_mapError_eq_error, Guard.result_evaluate]

/-- What becomes of a clause whose pattern has matched: that is up to its guard. -/
def afterMatch (clause : Clause α) (index : Nat) (scope : Scope) (b : Bindings) :
    Run MatchError (Option Bindings) :=
  match clause.guard with
  | none => pure (some b)
  | some guard => do
    let value ← verdict guard index (scope.child b)
    return if value.isTruthy then some b else none

theorem afterMatch_eq_ok {b : Bindings} {found : Option Bindings} :
    (clause.afterMatch index scope b).result = .ok found ↔
      clause.guard = none ∧ some b = found ∨ ∃ guard value, clause.guard = some guard ∧
        guard.value (scope.child b) = .ok value ∧
          (if value.isTruthy then some b else none) = found := by
  unfold afterMatch
  cases clause.guard with
  | none => simp
  | some guard => simp [map_eq_ok, verdict_eq_ok]

theorem afterMatch_eq_error {b : Bindings} {e : MatchError} :
    (clause.afterMatch index scope b).result = .error e ↔
      ∃ guard source, clause.guard = some guard ∧ guard.value (scope.child b) = .error source ∧
        .guardEvaluation index source = e := by
  unfold afterMatch
  cases clause.guard with
  | none => simp
  | some guard => simp [map_eq_error, verdict_eq_error]

/-- A clause matches its pattern once, and then only its guard. -/
theorem take_eq : clause.take index subject scope =
    clause.pattern.matchIn subject scope [index, 0] >>= fun
      | .noMatch => pure none
      | .matched b => clause.afterMatch index scope b := rfl

theorem take_eq_ok {found : Option Bindings} :
    (clause.take index subject scope).result = .ok found ↔
      clause.pattern.outcome subject scope = .ok .noMatch ∧ none = found ∨
        ∃ b, clause.pattern.outcome subject scope = .ok (.matched b) ∧
          (clause.afterMatch index scope b).result = .ok found := by
  rw [take_eq, Run.result_bind, bind_eq_ok, Compiled.result_matchIn]
  constructor
  · rintro ⟨outcome, houtcome, hnext⟩
    cases outcome with
    | noMatch => exact .inl ⟨houtcome, Except.ok.inj hnext⟩
    | matched b => exact .inr ⟨b, houtcome, hnext⟩
  · rintro (⟨houtcome, rfl⟩ | ⟨b, houtcome, hnext⟩)
    · exact ⟨_, houtcome, rfl⟩
    · exact ⟨_, houtcome, hnext⟩

theorem take_eq_none :
    (clause.take index subject scope).result = .ok none ↔ clause.Skips subject scope := by
  rw [take_eq_ok, Skips]
  refine or_congr (by simp) (exists_congr fun b => ?_)
  rw [afterMatch_eq_ok]
  simp

theorem take_eq_some {b : Bindings} :
    (clause.take index subject scope).result = .ok (some b) ↔ clause.Takes subject scope b := by
  rw [take_eq_ok]
  constructor
  · rintro (⟨-, hfound⟩ | ⟨b', houtcome, hafter⟩)
    · cases hfound
    · rcases afterMatch_eq_ok.1 hafter with
        ⟨hguard, hfound⟩ | ⟨guard, value, hguard, hvalue, hfound⟩
      · obtain rfl := Option.some.inj hfound
        exact ⟨houtcome, by simp [hguard]⟩
      · split at hfound
        · next htruthy =>
          obtain rfl := Option.some.inj hfound
          -- a clause has one guard at most
          refine ⟨houtcome, fun guard' hguard' => ⟨value, ?_, htruthy⟩⟩
          obtain rfl := Option.some.inj (hguard.symm.trans hguard')
          exact hvalue
        · cases hfound
  · rintro ⟨houtcome, hguards⟩
    refine .inr ⟨b, houtcome, afterMatch_eq_ok.2 ?_⟩
    cases hguard : clause.guard with
    | none => exact .inl ⟨rfl, rfl⟩
    | some guard =>
      obtain ⟨value, hvalue, htruthy⟩ := hguards guard hguard
      exact .inr ⟨guard, value, rfl, hvalue, if_pos htruthy⟩

theorem take_eq_error {e : MatchError} :
    (clause.take index subject scope).result = .error e ↔
      clause.pattern.outcome subject scope = .error e ∨
        ∃ source, clause.GuardFails subject scope source ∧ .guardEvaluation index source = e := by
  rw [take_eq, Run.result_bind, bind_eq_error, Compiled.result_matchIn]
  refine or_congr_right ⟨?_, ?_⟩
  · rintro ⟨outcome, houtcome, hnext⟩
    cases outcome with
    | noMatch => cases hnext
    | matched b =>
      obtain ⟨guard, source, hguard, hsource, rfl⟩ := afterMatch_eq_error.1 hnext
      exact ⟨source, ⟨b, guard, houtcome, hguard, hsource⟩, rfl⟩
  · rintro ⟨source, ⟨b, guard, houtcome, hguard, hsource⟩, rfl⟩
    exact ⟨_, houtcome, afterMatch_eq_error.2 ⟨guard, source, hguard, hsource, rfl⟩⟩

/-- A clause that its guard rejects has matched its pattern and evaluated its guard, once each. -/
theorem take_of_rejected {b : Bindings} {guard : Guard} {value : Value}
    (houtcome : clause.pattern.outcome subject scope = .ok (.matched b))
    (hguard : clause.guard = some guard) (hvalue : guard.value (scope.child b) = .ok value)
    (hfalsy : ¬ value.isTruthy) :
    clause.take index subject scope =
      ⟨(clause.pattern.matchIn subject scope [index, 0]).calls
        ++ (guard.evaluate (scope.child b) [index, 1]).calls, .ok none⟩ := by
  rw [take_eq, Run.bind_of_ok (by rw [Compiled.result_matchIn, houtcome])]
  dsimp only
  unfold afterMatch
  rw [hguard]
  dsimp only
  rw [Run.bind_of_ok (verdict_eq_ok.2 hvalue)]
  simp [hfalsy, verdict]

end Clause

/-! ## The first clause that is not skipped -/

namespace MatchExpr

variable {α : Type} {subject : Value} {scope : Scope}

/-- All clauses before clause `i` are skipped. -/
def Reaches (clauses : List (Clause α)) (subject : Value) (scope : Scope) (i : Nat)
    (clause : Clause α) : Prop :=
  clauses[i]? = some clause ∧ ∀ c ∈ clauses.take i, c.Skips subject scope

/-- Reached are the first clause and, if that is skipped, what is reached among the others. -/
theorem exists_reaches_cons {clause : Clause α} {rest : List (Clause α)}
    {P : Nat → Clause α → Prop} :
    (∃ i c, Reaches (clause :: rest) subject scope i c ∧ P i c) ↔
      P 0 clause ∨ clause.Skips subject scope ∧
        ∃ i c, Reaches rest subject scope i c ∧ P (i + 1) c := by
  constructor
  · rintro ⟨i, c, ⟨hc, hskips⟩, hP⟩
    cases i with
    | zero =>
      obtain rfl : clause = c := by simpa using hc
      exact .inl hP
    | succ i =>
      rw [List.take_succ_cons, List.forall_mem_cons] at hskips
      exact .inr ⟨hskips.1, i, c, ⟨by simpa using hc, hskips.2⟩, hP⟩
  · rintro (hP | ⟨hskip, i, c, ⟨hc, hskips⟩, hP⟩)
    · exact ⟨0, clause, ⟨rfl, by simp⟩, hP⟩
    · refine ⟨i + 1, c, ⟨by simpa using hc, ?_⟩, hP⟩
      rw [List.take_succ_cons, List.forall_mem_cons]
      exact ⟨hskip, hskips⟩

theorem selectFrom_cons (clause : Clause α) (rest : List (Clause α)) (index : Nat) :
    selectFrom (clause :: rest) index subject scope =
      clause.take index subject scope >>= fun
        | some b => pure (some ⟨some index, clause.body, b⟩)
        | none => selectFrom rest (index + 1) subject scope := rfl

/-- The clauses that come later are tried when none of those before takes the subject. -/
theorem selectFrom_append (before after : List (Clause α)) (index : Nat) :
    selectFrom (before ++ after) index subject scope =
      selectFrom before index subject scope >>= fun
        | some selection => pure (some selection)
        | none => selectFrom after (index + before.length) subject scope := by
  induction before generalizing index with
  | nil => rw [List.nil_append, selectFrom, pure_bind]; rfl
  | cons clause before ih =>
    rw [List.cons_append, selectFrom_cons, selectFrom_cons, bind_assoc]
    congr 1
    funext found
    cases found with
    | some b => rw [pure_bind]
    | none =>
      have hindex : index + (clause :: before).length = index + 1 + before.length := by
        rw [List.length_cons]; omega
      rw [hindex]
      exact ih (index + 1)

theorem selectFrom_eq_none {clauses : List (Clause α)} {index : Nat} :
    (selectFrom clauses index subject scope).result = .ok none ↔
      ∀ c ∈ clauses, c.Skips subject scope := by
  induction clauses generalizing index with
  | nil => simp [selectFrom]
  | cons clause clauses ih =>
    rw [selectFrom_cons, Run.result_bind, bind_eq_ok, List.forall_mem_cons]
    constructor
    · rintro ⟨found, htake, hnext⟩
      cases found with
      | some b => cases hnext
      | none => exact ⟨Clause.take_eq_none.1 htake, ih.1 hnext⟩
    · rintro ⟨hskip, hskips⟩
      exact ⟨none, Clause.take_eq_none.2 hskip, ih.2 hskips⟩

theorem selectFrom_eq_some {clauses : List (Clause α)} (index : Nat) {selection : Selection α} :
    (selectFrom clauses index subject scope).result = .ok (some selection) ↔
      ∃ i clause, Reaches clauses subject scope i clause ∧
        ∃ b, clause.Takes subject scope b ∧ ⟨some (index + i), clause.body, b⟩ = selection := by
  induction clauses generalizing index with
  | nil => simp [selectFrom, Reaches]
  | cons clause clauses ih =>
    have hrest := ih (index + 1)
    simp only [Nat.add_assoc, Nat.add_comm 1] at hrest
    rw [selectFrom_cons, Run.result_bind, bind_eq_ok, exists_reaches_cons, ← hrest]
    constructor
    · rintro ⟨found, htake, hnext⟩
      cases found with
      | some b =>
        refine .inl ⟨b, Clause.take_eq_some.1 htake, ?_⟩
        exact Option.some.inj (Except.ok.inj hnext)
      | none => exact .inr ⟨Clause.take_eq_none.1 htake, hnext⟩
    · rintro (⟨b, htakes, rfl⟩ | ⟨hskip, hnext⟩)
      · exact ⟨some b, Clause.take_eq_some.2 htakes, rfl⟩
      · exact ⟨none, Clause.take_eq_none.2 hskip, hnext⟩

theorem selectFrom_eq_error {clauses : List (Clause α)} (index : Nat) {e : MatchError} :
    (selectFrom clauses index subject scope).result = .error e ↔
      ∃ i clause, Reaches clauses subject scope i clause ∧
        (clause.take (index + i) subject scope).result = .error e := by
  induction clauses generalizing index with
  | nil => simp [selectFrom, Reaches]
  | cons clause clauses ih =>
    have hrest := ih (index + 1)
    simp only [Nat.add_assoc, Nat.add_comm 1] at hrest
    rw [selectFrom_cons, Run.result_bind, bind_eq_error, exists_reaches_cons, ← hrest]
    refine or_congr_right ?_
    constructor
    · rintro ⟨found, htake, hnext⟩
      cases found with
      | some b => cases hnext
      | none => exact ⟨Clause.take_eq_none.1 htake, hnext⟩
    · rintro ⟨hskip, hnext⟩
      exact ⟨none, Clause.take_eq_none.2 hskip, hnext⟩

/-! ## Evaluation -/

variable {expr : MatchExpr α}

/-- What is left to be done from clause `index` on. -/
def evaluateFrom (expr : MatchExpr α) (index : Nat) (subject : Value) (scope : Scope) :
    Run MatchError (Selection α) :=
  selectFrom (expr.clauses.drop index) index subject scope >>= fun
    | some selection => pure selection
    | none => .ofExcept expr.fallback

theorem evaluate_eq_evaluateFrom :
    expr.evaluate subject scope = expr.evaluateFrom 0 subject scope := rfl

theorem fallback_eq_ok {selection : Selection α} :
    expr.fallback = .ok selection ↔
      ∃ body, expr.default = some body ∧ ⟨none, body, .empty⟩ = selection := by
  unfold fallback
  cases expr.default <;> simp

theorem fallback_eq_error {e : MatchError} :
    expr.fallback = .error e ↔ expr.default = none ∧ .exhausted expr.clauses.length = e := by
  unfold fallback
  cases expr.default <;> simp

/-- An evaluation selects a clause, or the default past clauses that are all skipped. -/
theorem evaluate_eq_ok {selection : Selection α} :
    (expr.evaluate subject scope).result = .ok selection ↔
      (selectFrom expr.clauses 0 subject scope).result = .ok (some selection) ∨
        (∀ c ∈ expr.clauses, c.Skips subject scope) ∧ expr.fallback = .ok selection := by
  rw [evaluate, Run.result_bind, bind_eq_ok, ← selectFrom_eq_none]
  constructor
  · rintro ⟨found, hselect, hnext⟩
    cases found with
    | some s =>
      obtain rfl : s = selection := Except.ok.inj hnext
      exact .inl hselect
    | none => exact .inr ⟨hselect, hnext⟩
  · rintro (hselect | ⟨hselect, hfallback⟩)
    · exact ⟨_, hselect, rfl⟩
    · exact ⟨none, hselect, hfallback⟩

/-- An evaluation fails in a clause, or without a default past clauses that are all skipped. -/
theorem evaluate_eq_error {e : MatchError} :
    (expr.evaluate subject scope).result = .error e ↔
      (selectFrom expr.clauses 0 subject scope).result = .error e ∨
        (∀ c ∈ expr.clauses, c.Skips subject scope) ∧ expr.fallback = .error e := by
  rw [evaluate, Run.result_bind, bind_eq_error, ← selectFrom_eq_none]
  refine or_congr_right ⟨?_, fun ⟨hselect, hfallback⟩ => ⟨none, hselect, hfallback⟩⟩
  rintro ⟨found, hselect, hnext⟩
  cases found with
  | some s => cases hnext
  | none => exact ⟨hselect, hnext⟩

/-- Failures in clauses are those of the pattern or the guard of a clause that is reached. -/
theorem evaluate_eq_error_of_not_exhausted {e : MatchError} (he : ¬ e.isExhausted) :
    (expr.evaluate subject scope).result = .error e ↔
      ∃ i clause, Reaches expr.clauses subject scope i clause ∧
        (clause.pattern.outcome subject scope = .error e ∨
          ∃ source, clause.GuardFails subject scope source ∧ .guardEvaluation i source = e) := by
  rw [evaluate_eq_error, selectFrom_eq_error]
  simp only [Nat.zero_add, Clause.take_eq_error]
  refine or_iff_left ?_
  rintro ⟨-, hfallback⟩
  obtain ⟨-, rfl⟩ := fallback_eq_error.1 hfallback
  exact he rfl

/-- Clauses that are skipped add their calls and nothing else. -/
theorem evaluate_of_reaches {i : Nat} {clause : Clause α}
    (h : Reaches expr.clauses subject scope i clause) :
    expr.evaluate subject scope =
      ⟨(selectFrom (expr.clauses.take i) 0 subject scope).calls
        ++ (expr.evaluateFrom i subject scope).calls,
        (expr.evaluateFrom i subject scope).result⟩ := by
  obtain ⟨hclause, hskips⟩ := h
  have hlength : (expr.clauses.take i).length = i := by
    rw [List.length_take]
    have hi := (List.getElem?_eq_some_iff.1 hclause).1
    omega
  rw [evaluate_eq_evaluateFrom]
  unfold evaluateFrom
  rw [List.drop_zero]
  -- tell the clauses before clause `i` from the others
  conv_lhs => rw [← List.take_append_drop i expr.clauses]
  rw [selectFrom_append, bind_assoc, Run.bind_of_ok (selectFrom_eq_none.2 hskips), hlength,
    Nat.zero_add]

/-- A guard that rejects its clause hands over to the next clause. -/
theorem evaluateFrom_of_rejected {i : Nat} {clause : Clause α} {b : Bindings} {guard : Guard}
    {value : Value} (hclause : expr.clauses[i]? = some clause)
    (houtcome : clause.pattern.outcome subject scope = .ok (.matched b))
    (hguard : clause.guard = some guard) (hvalue : guard.value (scope.child b) = .ok value)
    (hfalsy : ¬ value.isTruthy) :
    expr.evaluateFrom i subject scope =
      ⟨(clause.pattern.matchIn subject scope [i, 0]).calls
        ++ (guard.evaluate (scope.child b) [i, 1]).calls
        ++ (expr.evaluateFrom (i + 1) subject scope).calls,
        (expr.evaluateFrom (i + 1) subject scope).result⟩ := by
  obtain ⟨hi, rfl⟩ := List.getElem?_eq_some_iff.1 hclause
  unfold evaluateFrom
  rw [List.drop_eq_getElem_cons hi, selectFrom_cons, bind_assoc,
    Clause.take_of_rejected houtcome hguard hvalue hfalsy, Run.bind_of_ok rfl]

/-! ## The answers of an evaluation -/

theorem evaluate_eq_clause {i : Nat} {body : α} {b : Bindings} :
    (expr.evaluate subject scope).result = .ok ⟨some i, body, b⟩ ↔
      ∃ clause, Reaches expr.clauses subject scope i clause ∧ clause.Takes subject scope b ∧
        clause.body = body := by
  rw [evaluate_eq_ok, selectFrom_eq_some, fallback_eq_ok]
  constructor
  · rintro (⟨j, clause, hreaches, b', htakes, hselection⟩ | ⟨-, body', -, hselection⟩)
    · obtain ⟨hj, rfl, rfl⟩ : 0 + j = i ∧ clause.body = body ∧ b' = b := by
        simpa using hselection
      obtain rfl : j = i := by omega
      exact ⟨clause, hreaches, htakes, rfl⟩
    · simp at hselection
  · rintro ⟨clause, hreaches, htakes, rfl⟩
    exact .inl ⟨i, clause, hreaches, b, htakes, by rw [Nat.zero_add]⟩

theorem evaluate_eq_default {body : α} {b : Bindings} :
    (expr.evaluate subject scope).result = .ok ⟨none, body, b⟩ ↔
      (∀ c ∈ expr.clauses, c.Skips subject scope) ∧ expr.default = some body ∧ b = .empty := by
  rw [evaluate_eq_ok, selectFrom_eq_some, fallback_eq_ok]
  constructor
  · rintro (⟨j, clause, -, b', -, hselection⟩ | ⟨hskips, body', hdefault, hselection⟩)
    · simp at hselection
    · obtain ⟨rfl, rfl⟩ : body' = body ∧ Bindings.empty = b := by simpa using hselection
      exact ⟨hskips, hdefault, rfl⟩
  · rintro ⟨hskips, hdefault, rfl⟩
    exact .inr ⟨hskips, body, hdefault, rfl⟩

theorem evaluate_eq_patternFault {e : MatchError} :
    (expr.evaluate subject scope).result = .error e ∧ e.isPatternFault ↔
      ∃ i clause, Reaches expr.clauses subject scope i clause ∧
        clause.pattern.outcome subject scope = .error e := by
  constructor
  · rintro ⟨hresult, hfault⟩
    obtain ⟨i, clause, hreaches, houtcome | ⟨source, -, rfl⟩⟩ :=
      (evaluate_eq_error_of_not_exhausted (MatchError.not_isExhausted hfault)).1 hresult
    · exact ⟨i, clause, hreaches, houtcome⟩
    · cases hfault
  · rintro ⟨i, clause, hreaches, houtcome⟩
    have hfault := Compiled.outcome_fault houtcome
    refine ⟨(evaluate_eq_error_of_not_exhausted (MatchError.not_isExhausted hfault)).2 ?_, hfault⟩
    exact ⟨i, clause, hreaches, .inl houtcome⟩

theorem evaluate_eq_guardEvaluation {i : Nat} {source : GuardError} :
    (expr.evaluate subject scope).result = .error (.guardEvaluation i source) ↔
      ∃ clause, Reaches expr.clauses subject scope i clause ∧
        clause.GuardFails subject scope source := by
  rw [evaluate_eq_error_of_not_exhausted (e := .guardEvaluation i source) Bool.false_ne_true]
  constructor
  · rintro ⟨j, clause, hreaches, houtcome | ⟨source', hfails, hsource⟩⟩
    · cases Compiled.outcome_fault houtcome
    · obtain ⟨rfl, rfl⟩ : j = i ∧ source' = source := by simpa using hsource
      exact ⟨clause, hreaches, hfails⟩
  · rintro ⟨clause, hreaches, hfails⟩
    exact ⟨i, clause, hreaches, .inr ⟨source, hfails, rfl⟩⟩

theorem evaluate_eq_exhausted {n : Nat} :
    (expr.evaluate subject scope).result = .error (.exhausted n) ↔
      (∀ c ∈ expr.clauses, c.Skips subject scope) ∧ expr.default = none ∧
        n = expr.clauses.length := by
  rw [evaluate_eq_error, selectFrom_eq_error, fallback_eq_error]
  constructor
  · rintro (⟨j, clause, -, htake⟩ | ⟨hskips, hdefault, hn⟩)
    -- a clause that is left with an error is never left with exhaustion
    · rcases Clause.take_eq_error.1 htake with houtcome | ⟨source, -, hsource⟩
      · cases Compiled.outcome_fault houtcome
      · cases hsource
    · exact ⟨hskips, hdefault, (MatchError.exhausted.inj hn).symm⟩
  · rintro ⟨hskips, hdefault, rfl⟩
    exact .inr ⟨hskips, hdefault, rfl⟩

/-- What an evaluation answers.

* It selects the first clause that takes the subject, with its bindings.
* It fails as the pattern of a clause does, if all clauses before that one are skipped.
* It fails for the guard of a clause, if all clauses before that one are skipped.
* It falls back on the default, with no bindings, if all clauses are skipped.
* It is exhausted if all clauses are skipped and there is no default.

The default has no part in any other failure, and a clause whose guard is falsy has matched its
pattern once when the next clause is tried. -/
theorem evaluate_spec (expr : MatchExpr α) (subject : Value) (scope : Scope) :
    (∀ i body b, (expr.evaluate subject scope).result = .ok ⟨some i, body, b⟩ ↔
      ∃ clause, Reaches expr.clauses subject scope i clause ∧ clause.Takes subject scope b ∧
        clause.body = body) ∧
    (∀ e, (expr.evaluate subject scope).result = .error e ∧ e.isPatternFault ↔
      ∃ i clause, Reaches expr.clauses subject scope i clause ∧
        clause.pattern.outcome subject scope = .error e) ∧
    (∀ i source, (expr.evaluate subject scope).result = .error (.guardEvaluation i source) ↔
      ∃ clause, Reaches expr.clauses subject scope i clause ∧
        clause.GuardFails subject scope source) ∧
    (∀ body b, (expr.evaluate subject scope).result = .ok ⟨none, body, b⟩ ↔
      (∀ c ∈ expr.clauses, c.Skips subject scope) ∧ expr.default = some body ∧ b = .empty) ∧
    (∀ n, (expr.evaluate subject scope).result = .error (.exhausted n) ↔
      (∀ c ∈ expr.clauses, c.Skips subject scope) ∧ expr.default = none ∧
        n = expr.clauses.length) ∧
    (∀ e, ¬ e.isExhausted → ∀ default,
      (evaluate { expr with default := default } subject scope).result = .error e ↔
        (expr.evaluate subject scope).result = .error e) ∧
    ∀ i clause b guard value, Reaches expr.clauses subject scope i clause →
      clause.pattern.outcome subject scope = .ok (.matched b) → clause.guard = some guard →
      guard.value (scope.child b) = .ok value → ¬ value.isTruthy →
        expr.evaluate subject scope =
          ⟨(selectFrom (expr.clauses.take i) 0 subject scope).calls
            ++ ((clause.pattern.matchIn subject scope [i, 0]).calls
              ++ (guard.evaluate (scope.child b) [i, 1]).calls
              ++ (expr.evaluateFrom (i + 1) subject scope).calls),
            (expr.evaluateFrom (i + 1) subject scope).result⟩ := by
  refine ⟨fun _ _ _ => evaluate_eq_clause, fun _ => evaluate_eq_patternFault,
    fun _ _ => evaluate_eq_guardEvaluation, fun _ _ => evaluate_eq_default,
    fun _ => evaluate_eq_exhausted, fun e he default => ?_, ?_⟩
  · rw [evaluate_eq_error_of_not_exhausted he, evaluate_eq_error_of_not_exhausted he]
  · intro i clause b guard value hreaches houtcome hguard hvalue hfalsy
    rw [evaluate_of_reaches hreaches,
      evaluateFrom_of_rejected hreaches.1 houtcome hguard hvalue hfalsy]

/-- Pairs of two nulls before pairs of which one is a null. -/
def nullPairs : MatchExpr String where
  clauses := [⟨.besideNull, some (.compare "item" .eq .null), "two nulls"⟩,
    ⟨.besideNull, none, "one null"⟩]
  default := some "no null"

theorem evaluate_spec_nullPairs :
    ∃ b, (nullPairs.evaluate (.sequence [.null, .bool true]) .root).result
        = .ok ⟨some 1, "one null", b⟩ ∧
      (nullPairs.evaluate (.sequence [.null, .bool true]) .root).calls.map Call.site
        = [[0, 1]] := by
  obtain ⟨hclause, -, -, -, -, -, hrejected⟩ :=
    evaluate_spec nullPairs (.sequence [.null, .bool true]) .root
  let b := (Bindings.empty.bind "pair" (.sequence [.null, .bool true])).bind "item" (.bool true)
  have houtcome : Compiled.besideNull.outcome (.sequence [.null, .bool true]) .root
      = .ok (.matched b) := by cbv
  have hvalue : (Guard.compare "item" .eq .null).value (Scope.root.child b)
      = .ok (.bool false) := by cbv
  have hfalsy : ¬ (Value.bool false).isTruthy := by decide
  refine ⟨b, (hclause 1 "one null" b).2 ⟨_, ⟨rfl, ?_⟩, ⟨houtcome, ?_⟩, rfl⟩, ?_⟩
  · rw [nullPairs, List.take_succ_cons, List.take_zero, List.forall_mem_singleton]
    exact .inr ⟨b, _, _, houtcome, rfl, hvalue, hfalsy⟩
  · rintro guard ⟨⟩
  · rw [hrejected 0 _ b _ _ ⟨rfl, by simp⟩ houtcome rfl hvalue hfalsy]
    cbv

end MatchExpr

end Destructure
