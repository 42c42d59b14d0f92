import Mathlib.Data.Set.List
import Destructure.Proofs.Entries
import Destructure.Proofs.MatchExpr.Selection

set_option autoImplicit false

/-! # One clause for each branch

Inside a pattern a match goes on to the next branch of an alternation: it has kept the bindings before,
and cuts off those of the branch that failed. Among clauses an evaluation goes on to the next one, which
starts afresh. The two come to the same: a clause whose pattern is an alternation can be split into one
clause for each branch (`MatchExpr.evaluate_split`). A guard makes a difference, but for the worse only:
a clause that its guard rejects does not try its other branches, and the clauses that it is split into
do. -/

namespace Destructure

variable {α : Type}

/-! ## Other numbers for clauses -/

/-- The selection where clause `n` is clause `f n`. -/
def Selection.renumber (f : Nat → Nat) (selection : Selection α) : Selection α :=
  { selection with clause := selection.clause.map f }

/-- The failure where clause `n` is clause `f n`. How many clauses there are is the number behind the
last one. -/
def MatchError.renumber (f : Nat → Nat) : MatchError → MatchError
  | .guardEvaluation clause source => .guardEvaluation (f clause) source
  | .exhausted clauses => .exhausted (f clauses)
  | .extractorContract extractor fault => .extractorContract extractor fault
  | .predicateEvaluation predicate source => .predicateEvaluation predicate source

theorem MatchError.renumber_of_isPatternFault {e : MatchError} (h : e.isPatternFault)
    (f : Nat → Nat) : e.renumber f = e := by
  cases e with
  | guardEvaluation clause source | exhausted clauses => cases h
  | _ => rfl

/-- The failures of a pattern do not speak of clauses. -/
theorem Pattern.read_renumber (p : Pattern) (f : Nat → Nat) (scope : Scope) (site : Site)
    (subject : Value) : (p.read scope site subject).mapError (.renumber f) = p.read scope site subject :=
  Run.mapError_eq_self fun _ he => MatchError.renumber_of_isPatternFault (read_fault he) f

/-- The evaluation where clause `n` is clause `f n`. -/
def MatchExpr.renumber (f : Nat → Nat) (run : Run MatchError (Selection α)) :
    Run MatchError (Selection α) := (Selection.renumber f <$> run).mapError (.renumber f)

/-- The search for a clause where clause `n` is clause `f n`. -/
def MatchExpr.renumberFound (f : Nat → Nat) (run : Run MatchError (Option (Selection α))) :
    Run MatchError (Option (Selection α)) :=
  (Option.map (Selection.renumber f) <$> run).mapError (.renumber f)

theorem Bindings.ofList_entries (b : Bindings) : Bindings.ofList b.entries = b :=
  Bindings.ext (Entries.ofList_eq_self b.nodup)

namespace Clause

variable {clause : Clause α} {subject : Value} {scope : Scope}

/-- A clause does the same under every number. -/
theorem take_renumber (f : Nat → Nat) (index : Nat) :
    ((clause.take index subject scope).mapError (.renumber f)).Alike
      (clause.take (f index) subject scope) := by
  have hmatch : ((clause.pattern.matchIn subject scope [index, 0]).mapError (.renumber f)).Alike
      (clause.pattern.matchIn subject scope [f index, 0]) := by
    refine .of_map Outcome.pairs?_injective ?_
    rw [← Run.mapError_map, Compiled.matchIn_reads, Compiled.matchIn_reads, Pattern.read_renumber]
    exact clause.pattern.pattern.read_alike scope _ _ subject
  rw [take_eq, take_eq, Run.mapError_bind]
  refine hmatch.bind fun outcome => ?_
  cases outcome with
  | noMatch => exact .refl _
  | matched b =>
    dsimp only
    unfold afterMatch
    cases clause.guard with
    | none => exact .refl _
    | some guard =>
      dsimp only
      rw [Run.mapError_bind, verdict, verdict, Run.mapError_mapError]
      exact ((guard.evaluate_alike _ _ _).mapError _).bind fun value => .refl _

/-- Without a guard a clause takes what its pattern reads. -/
theorem take_of_unguarded (h : clause.guard = none) (index : Nat) :
    clause.take index subject scope
      = Option.map .ofList <$> clause.pattern.pattern.read scope [index, 0] subject := by
  rw [← Compiled.matchIn_reads, ← comp_map, take_eq, map_eq_pure_bind]
  congr 1
  funext outcome
  cases outcome with
  | noMatch => rfl
  | matched b =>
    unfold afterMatch
    simp [h, Outcome.pairs?, Outcome.bindings?, Bindings.ofList_entries]

/-- The clauses that take one branch each, with the guard and the body of this one. -/
def split (clause : Clause α) (branches : List Compiled) : List (Clause α) :=
  branches.map fun branch => { clause with pattern := branch }

end Clause

namespace MatchExpr

variable {subject : Value} {scope : Scope}

/-- Clauses do the same under other numbers. -/
theorem selectFrom_renumber {f : Nat → Nat} {clauses : List (Clause α)} {index index' : Nat}
    (h : ∀ n < clauses.length, f (index + n) = index' + n) :
    (renumberFound f (selectFrom clauses index subject scope)).Alike
      (selectFrom clauses index' subject scope) := by
  induction clauses generalizing index index' with
  | nil => exact .refl _
  | cons clause rest ih =>
    have hfirst : f index = index' := h 0 (Nat.succ_pos _)
    have hrest : ∀ n < rest.length, f (index + 1 + n) = index' + 1 + n := fun n hn => by
      have hnext := h (n + 1) (Nat.succ_lt_succ hn)
      rwa [← Nat.add_assoc, ← Nat.add_assoc, Nat.add_right_comm, Nat.add_right_comm index'] at hnext
    have htake : ((clause.take index subject scope).mapError (.renumber f)).Alike
        (clause.take index' subject scope) := hfirst ▸ clause.take_renumber f index
    rw [renumberFound, selectFrom_cons, selectFrom_cons, map_bind, Run.mapError_bind]
    refine htake.bind fun found => ?_
    cases found with
    | some b => rw [← hfirst]; exact .refl _
    | none => exact ih hrest

/-! ## Branches as clauses -/

/-- Unguarded clauses for branches find what the branches read, and go by one number instead of one
for each. -/
theorem selectFrom_split {f : Nat → Nat} {clause : Clause α} {branches : List Compiled}
    {index i j : Nat} {site : Site} (hguard : clause.guard = none)
    (h : ∀ n < branches.length, f (index + n) = i) :
    (renumberFound f (selectFrom (clause.split branches) index subject scope)).Alike
      (Option.map (fun pairs => ⟨some i, clause.body, .ofList pairs⟩)
        <$> Pattern.readBranches (branches.map (·.pattern)) scope site j subject) := by
  induction branches generalizing index j with
  | nil => rw [List.map_nil, Pattern.readBranches]; exact .refl _
  | cons branch rest ih =>
    have hrest : ∀ n < rest.length, f (index + 1 + n) = i := fun n hn => by
      rw [Nat.add_assoc, Nat.add_comm 1]
      exact h (n + 1) (Nat.succ_lt_succ hn)
    have hbranch : ({ clause with pattern := branch } : Clause α).guard = none := hguard
    have htake : ({ clause with pattern := branch } : Clause α).take index subject scope
        = Option.map .ofList <$> branch.pattern.read scope [index, 0] subject :=
      Clause.take_of_unguarded hbranch index
    rw [Clause.split, List.map_cons, List.map_cons, Pattern.readBranches, renumberFound,
      selectFrom_cons, htake, Reading.either, bind_map_left, map_bind, map_bind, Run.mapError_bind,
      Pattern.read_renumber]
    refine (branch.pattern.read_alike scope _ _ subject).bind fun found => ?_
    cases found with
    | none => exact ih hrest
    | some pairs => rw [← h 0 (Nat.succ_pos _)]; exact .refl _

/-- Evaluation goes on from the search for a clause under its own numbers. -/
theorem renumber_evaluate (f : Nat → Nat) (expr : MatchExpr α) :
    renumber f (expr.evaluate subject scope) =
      renumberFound f (selectFrom expr.clauses 0 subject scope) >>= fun
        | some selection => pure selection
        | none => renumber f (.ofExcept expr.fallback) := by
  rw [renumber, evaluate, map_bind, Run.mapError_bind, renumberFound, Run.mapError_map,
    bind_map_left]
  congr 1
  funext found
  cases found with
  | some selection => rfl
  | none => rfl

theorem renumberFound_append (f : Nat → Nat) (before after : List (Clause α)) (index : Nat) :
    renumberFound f (selectFrom (before ++ after) index subject scope) =
      renumberFound f (selectFrom before index subject scope) >>= fun
        | some selection => pure (some selection)
        | none => renumberFound f (selectFrom after (index + before.length) subject scope) := by
  rw [selectFrom_append, renumberFound, map_bind, Run.mapError_bind]
  conv_rhs => rw [renumberFound, Run.mapError_map, bind_map_left]
  congr 1
  funext found
  cases found with
  | some selection => rfl
  | none => rfl

/-- The number of a clause before clause `first` is split into `count` clauses. -/
def wholeNumber (first count n : Nat) : Nat :=
  if n < first then n else if n < first + count then first else n + 1 - count

/-- A clause without a guard finds what the clauses for its branches find. -/
theorem selectFrom_whole {clause : Clause α} {branches : List Pattern} {index : Nat}
    (hguard : clause.guard = none) (h : clause.pattern.pattern = .alternation branches) :
    selectFrom [clause] index subject scope =
      Option.map (fun pairs => ⟨some index, clause.body, .ofList pairs⟩)
        <$> Pattern.readBranches branches scope [index, 0] 0 subject := by
  rw [selectFrom_cons, Clause.take_of_unguarded hguard, h, Pattern.read, bind_map_left,
    map_eq_pure_bind]
  congr 1
  funext found
  cases found with
  | some pairs => rfl
  | none => rfl

theorem wholeNumber_before {first count n : Nat} (h : n < first) :
    wholeNumber first count (0 + n) = 0 + n := by
  unfold wholeNumber; split_ifs <;> omega

theorem wholeNumber_split {first count n : Nat} (h : n < count) :
    wholeNumber first count (first + n) = first := by
  unfold wholeNumber; split_ifs <;> omega

theorem wholeNumber_after (first count n : Nat) :
    wholeNumber first count (first + count + n) = first + 1 + n := by
  unfold wholeNumber; split_ifs <;> omega

variable {before after : List (Clause α)} {clause : Clause α} {branches : List Compiled}
  {default : Option α}

/-- An unguarded clause for an alternation can be split. -/
theorem evaluate_split_alike
    (h : clause.pattern.pattern = .alternation (branches.map (·.pattern)))
    (hguard : clause.guard = none) :
    (renumber (wholeNumber before.length branches.length)
        (evaluate ⟨before ++ clause.split branches ++ after, default⟩ subject scope)).Alike
      (evaluate ⟨before ++ [clause] ++ after, default⟩ subject scope) := by
  let f := wholeNumber before.length branches.length
  have hcount : (clause.split branches).length = branches.length := List.length_map _
  have hsplit : (renumberFound f (selectFrom (clause.split branches) before.length subject
      scope)).Alike (selectFrom [clause] before.length subject scope) := by
    rw [selectFrom_whole hguard h]
    exact selectFrom_split hguard fun n hn => wholeNumber_split hn
  have hafter : (renumberFound f (selectFrom after (before.length + branches.length) subject
      scope)).Alike (selectFrom after (before.length + 1) subject scope) :=
    selectFrom_renumber fun n _ => wholeNumber_after before.length branches.length n
  have hlength : f (before ++ clause.split branches ++ after).length
      = (before ++ [clause] ++ after).length := by
    simp only [List.length_append, hcount]
    exact wholeNumber_after ..
  rw [renumber_evaluate, renumberFound_append, renumberFound_append, evaluate, selectFrom_append,
    selectFrom_append, Nat.zero_add, Nat.zero_add, List.length_append, List.length_append, hcount,
    Nat.zero_add]
  refine Run.Alike.bind (.bind (.bind ?_ fun found => ?_) fun found => ?_) fun found => ?_
  · exact selectFrom_renumber fun n hn => wholeNumber_before hn
  · cases found with
    | some selection => exact .refl _
    | none => exact hsplit
  · cases found with
    | some selection => exact .refl _
    | none => exact hafter
  · cases found with
    | some selection => exact .refl _
    | none =>
      cases default with
      | some body => exact .refl _
      | none => exact ⟨rfl, congrArg (fun n => Except.error (MatchError.exhausted n)) hlength⟩

/-! ## The branch that is found -/

end MatchExpr

/-- The outcome of a compiled pattern tells what it reads, wherever it stands. -/
theorem Compiled.outcome_eq_ok {c : Compiled} {subject : Value} {scope : Scope} {outcome : Outcome}
    (site : Site) : c.outcome subject scope = .ok outcome ↔
      (c.pattern.read scope site subject).result = .ok outcome.pairs? := by
  constructor
  · intro h
    rw [← c.matchIn_reads, Run.result_map, result_matchIn, h]
    rfl
  · intro h
    obtain ⟨found, hfound, hpairs⟩ := c.matchIn_eq_ok h
    rw [← c.result_matchIn _ _ site, hfound, Outcome.pairs?_injective hpairs]

/-- What branches find is what one of them finds, and those before it find nothing. -/
theorem Pattern.readBranches_eq_some {branches : List Pattern} {scope : Scope} {site : Site}
    {j : Nat} {subject : Value} {pairs : List (String × Value)}
    (h : (readBranches branches scope site j subject).result = .ok (some pairs)) :
    ∃ k p, branches[k]? = some p ∧ (p.read scope [] subject).result = .ok (some pairs) ∧
      ∀ q ∈ branches.take k, (q.read scope [] subject).result = .ok none := by
  induction branches generalizing j with
  | nil =>
    rw [readBranches] at h
    cases h
  | cons p rest ih =>
    rw [readBranches, Reading.result_either_eq_some, (p.read_alike scope _ [] subject).result] at h
    rcases h with hfirst | ⟨hfirst, hrest⟩
    · exact ⟨0, p, rfl, hfirst, by simp⟩
    · obtain ⟨k, q, hq, hread, hbefore⟩ := ih hrest
      exact ⟨k + 1, q, by simpa using hq, hread, by simpa using ⟨hfirst, hbefore⟩⟩

namespace MatchExpr

variable {subject : Value} {scope : Scope} {before after : List (Clause α)} {clause : Clause α}
  {branches : List Compiled} {default : Option α} {body : α} {b : Bindings}

/-- A clause behind others is reached when these are skipped and it is reached from there. -/
theorem reaches_append {k : Nat} :
    Reaches (before ++ after) subject scope (before.length + k) clause ↔
      (∀ c ∈ before, c.Skips subject scope) ∧ Reaches after subject scope k clause := by
  rw [Reaches, Reaches, List.take_length_add_append, List.forall_mem_append,
    List.getElem?_append_right (Nat.le_add_right ..), Nat.add_sub_cancel_left]
  exact and_left_comm

/-- Clauses behind a clause do not keep it from being reached. -/
theorem Reaches.append {k : Nat} (h : Reaches before subject scope k clause) :
    Reaches (before ++ after) subject scope k clause := by
  obtain ⟨hclause, hskips⟩ := h
  have hk : k < before.length := (List.getElem?_eq_some_iff.1 hclause).1
  refine ⟨by rwa [List.getElem?_append_left hk], ?_⟩
  rwa [List.take_append_of_le_length hk.le]

/-- Where a clause for an alternation takes the subject, the clause for one of its branches does,
and those before that one are skipped. -/
theorem reaches_split (h : clause.pattern.pattern = .alternation (branches.map (·.pattern)))
    (htakes : clause.Takes subject scope b) :
    ∃ k < branches.length, ∃ c, Reaches (clause.split branches) subject scope k c ∧
      c.Takes subject scope b ∧ c.body = clause.body := by
  obtain ⟨houtcome, hguard⟩ := htakes
  have hread := (Compiled.outcome_eq_ok []).1 houtcome
  rw [h, Pattern.read] at hread
  obtain ⟨k, p, hp, hread, hearlier⟩ := Pattern.readBranches_eq_some hread
  rw [List.getElem?_map, Option.map_eq_some_iff] at hp
  obtain ⟨branch, hbranch, rfl⟩ := hp
  refine ⟨k, (List.getElem?_eq_some_iff.1 hbranch).1, { clause with pattern := branch }, ⟨?_, ?_⟩,
    ⟨(Compiled.outcome_eq_ok []).2 hread, hguard⟩, rfl⟩
  · simp [Clause.split, hbranch]
  · rw [Clause.split, ← List.map_take, List.forall_mem_map]
    rw [← List.map_take, List.forall_mem_map] at hearlier
    exact fun earlier hmem => .inl ((Compiled.outcome_eq_ok []).2 (hearlier earlier hmem))

/-- Where an evaluation selects a clause for an alternation, it selects one of the clauses that this
one is split into, guard or not. -/
theorem evaluate_split_selects
    (h : clause.pattern.pattern = .alternation (branches.map (·.pattern)))
    (hselect : (evaluate ⟨before ++ [clause] ++ after, default⟩ subject scope).result
      = .ok ⟨some before.length, body, b⟩) :
    ∃ k < branches.length,
      (evaluate ⟨before ++ clause.split branches ++ after, default⟩ subject scope).result
        = .ok ⟨some (before.length + k), body, b⟩ := by
  obtain ⟨found, hreaches, htakes, rfl⟩ := evaluate_eq_clause.1 hselect
  rw [List.append_assoc] at hreaches ⊢
  obtain ⟨hskips, hfound, -⟩ := (reaches_append (k := 0)).1 hreaches
  obtain rfl : clause = found := by simpa using hfound
  obtain ⟨k, hk, c, hc, htakes, hbody⟩ := reaches_split h htakes
  exact ⟨k, hk, evaluate_eq_clause.2 ⟨c, reaches_append.2 ⟨hskips, hc.append⟩, htakes, hbody⟩⟩

/-- The branches of an accepted alternation are accepted. -/
theorem exists_compiled_branches {c : Compiled} {branches : List Pattern}
    (h : c.pattern = .alternation branches) :
    ∃ compiled : List Compiled, compiled.map (·.pattern) = branches := by
  refine (Set.ext_iff.1 (Set.range_list_map _) branches).2 fun p hp => ?_
  obtain ⟨-, -, hparts⟩ := Pattern.fits_iff.1 c.fits
  rw [h, Pattern.parts_alternation] at hparts
  obtain ⟨branch, hbranch⟩ := Pattern.exists_compile_iff.2 (Pattern.fits_two_iff.1 (hparts p hp)).1
  exact ⟨branch, Pattern.compile_eq_ok.1 hbranch⟩

/-- A clause for an alternation can be split into one clause for each branch, with its guard and its
body. Every branch is accepted by itself.

* Without a guard the split clauses select what the whole one does, with the same bindings, or the
  default, are exhausted or fail as it does, and call the same on the way. Only the numbers change:
  those of the split clauses become one, the clauses behind them move up, and so does the number of
  clauses that exhaustion reports.
* With a guard one of the split clauses selects whatever the whole one selects. -/
theorem evaluate_split (before after : List (Clause α)) (clause : Clause α) (default : Option α)
    {branches : List Pattern} (h : clause.pattern.pattern = .alternation branches) :
    ∃ compiled : List Compiled, branches.map Pattern.compile = compiled.map .ok ∧
      (clause.guard = none → ∀ subject scope,
        (renumber (wholeNumber before.length branches.length)
            (evaluate ⟨before ++ clause.split compiled ++ after, default⟩ subject scope)).Alike
          (evaluate ⟨before ++ [clause] ++ after, default⟩ subject scope)) ∧
      ∀ subject scope body b,
        (evaluate ⟨before ++ [clause] ++ after, default⟩ subject scope).result
            = .ok ⟨some before.length, body, b⟩ →
          ∃ k < branches.length,
            (evaluate ⟨before ++ clause.split compiled ++ after, default⟩ subject scope).result
              = .ok ⟨some (before.length + k), body, b⟩ := by
  obtain ⟨compiled, rfl⟩ := exists_compiled_branches h
  refine ⟨compiled, ?_, fun hguard subject scope => ?_, fun subject scope body b hselect => ?_⟩
  · rw [List.map_map]
    exact List.map_congr_left fun c _ => Pattern.compile_eq_ok.2 rfl
  · rw [List.length_map]
    exact evaluate_split_alike h hguard
  · rw [List.length_map]
    exact evaluate_split_selects h hselect

/-- The item beside a null, behind a clause for nulls. -/
def besideNullClause (guard : Option Guard) : Clause String where
  pattern := ⟨.besideNull, ["item"], 3, by cbv⟩
  guard := guard
  body := "item"

def nullClause : Clause String := ⟨⟨.literal .null, [], 1, by cbv⟩, none, "null"⟩

theorem evaluate_split_besideNull :
    (∃ compiled, compiled.length = 2 ∧
      (renumber (wholeNumber 1 2) (evaluate ⟨[nullClause] ++ (besideNullClause none).split compiled
        ++ [], none⟩ (.bool true) .root)).result = .error (.exhausted 2)) ∧
    ∃ compiled, compiled.length = 2 ∧ ∃ k < 2,
      (evaluate ⟨[nullClause] ++ (besideNullClause (some (.bound "item"))).split compiled ++ [],
        none⟩ (.sequence [.null, .bool true]) .root).result
          = .ok ⟨some (1 + k), "item", Bindings.empty.bind "item" (.bool true)⟩ := by
  constructor
  · obtain ⟨compiled, hcompiled, hunguarded, -⟩ := evaluate_split [nullClause] []
      (besideNullClause none) none rfl
    refine ⟨compiled, by simpa using (congrArg List.length hcompiled).symm, ?_⟩
    exact (hunguarded rfl (.bool true) .root).result.trans (by cbv)
  · obtain ⟨compiled, hcompiled, -, hselects⟩ := evaluate_split [nullClause] []
      (besideNullClause (some (.bound "item"))) none rfl
    refine ⟨compiled, by simpa using (congrArg List.length hcompiled).symm, ?_⟩
    exact hselects (.sequence [.null, .bool true]) .root _ _ (by cbv)

end MatchExpr

end Destructure
