import Destructure.Proofs.Entries
import Destructure.Proofs.Guard.Names
import Destructure.Proofs.Matching.Binders
import Destructure.Proofs.Matching.Visits
import Destructure.Proofs.MatchExpr.Trace

set_option autoImplicit false

/-! # What an evaluation sees of its scope

Only predicates and the conditions of a domain are handed a scope. Without them an evaluation looks
at the scope in one place: where a guard mentions a name that its clause does not bind
(`MatchExpr.Reads`). A match binds all binders of its pattern, so for the others the frame of the
clause comes first. Hence two scopes that agree on the names that are read give the same answer and
the same trace (`MatchExpr.evaluate_visible`), however their frames are laid out. -/

namespace Destructure

/-! ## Scopes as lists of frames -/

/-- Put the bindings of an inner frame over others. -/
def Bindings.over (inner outer : Bindings) : Bindings :=
  inner.entries.foldl (fun b entry => b.bind entry.1 entry.2) outer

theorem Bindings.get?_foldl_bind {entries : List (String × Value)}
    (hnodup : (Entries.keys entries).Nodup) (b : Bindings) (name : String) :
    (entries.foldl (fun b entry => b.bind entry.1 entry.2) b).get? name
      = (Entries.find? name entries).or (b.get? name) := by
  induction entries generalizing b with
  | nil => rfl
  | cons entry rest ih =>
    obtain ⟨key, value⟩ := entry
    rw [Entries.keys_cons, List.nodup_cons] at hnodup
    rw [List.foldl_cons, ih hnodup.2, get?_bind, Entries.find?]
    by_cases hkey : key = name
    · -- the key comes only once, so nothing that is bound later hides its value
      subst hkey
      have hrest : Entries.find? key rest = none := by
        rw [← Option.not_isSome_iff_eq_none, Entries.isSome_find?_iff]
        exact hnodup.1
      simp [hrest]
    · simp [hkey]

/-- A frame over others hides them for the names that it binds, and for no other. -/
theorem Bindings.get?_over (inner outer : Bindings) (name : String) :
    (inner.over outer).get? name = (inner.get? name).or (outer.get? name) :=
  Bindings.get?_foldl_bind inner.nodup outer name

namespace Scope

/-- The frames, the innermost one first. -/
def frames (s : Scope) : List Bindings := s.frame :: s.enclosing

/-- The bindings that can be seen, in one frame. -/
def visible (s : Scope) : Bindings := s.frames.foldr Bindings.over .empty

theorem lookup_eq (s : Scope) (name : String) :
    s.lookup name = s.frames.findSome? (·.get? name) := rfl

theorem get?_foldr_over (frames : List Bindings) (name : String) :
    (frames.foldr Bindings.over .empty).get? name = frames.findSome? (·.get? name) := by
  induction frames with
  | nil => rfl
  | cons frame frames ih =>
    rw [List.foldr_cons, Bindings.get?_over, ih, List.findSome?_cons]
    cases frame.get? name <;> rfl

/-- A name has one value in a scope and among its visible bindings. -/
theorem get?_visible (s : Scope) (name : String) : s.visible.get? name = s.lookup name :=
  get?_foldr_over s.frames name

theorem lookup_ofBindings (b : Bindings) (name : String) :
    (ofBindings b).lookup name = b.get? name := by
  rw [lookup_eq, frames, ofBindings, List.findSome?_singleton]

/-- Frames that do not bind a name have no say in its value, wherever they stand. -/
theorem lookup_insert_frames {s s' : Scope} {before more after : List Bindings}
    (hs : s.frames = before ++ after) (hs' : s'.frames = before ++ more ++ after) {name : String}
    (hmore : ∀ frame ∈ more, name ∉ frame.names) : s.lookup name = s'.lookup name := by
  have hnone : more.findSome? (·.get? name) = none := by
    refine List.findSome?_eq_none_iff.2 fun frame hframe => ?_
    rw [← Option.not_isSome_iff_eq_none]
    exact fun hsome => hmore frame hframe (Bindings.contains_iff.1 hsome)
  rw [lookup_eq, lookup_eq, hs, hs', List.findSome?_append, List.findSome?_append,
    List.findSome?_append, hnone, Option.or_none]

/-- Binding a name in one of the frames changes no other name. -/
theorem lookup_bind_frame {s s' : Scope} {before after : List Bindings} {frame : Bindings}
    {name other : String} {value : Value} (hs : s.frames = before ++ frame :: after)
    (hs' : s'.frames = before ++ frame.bind name value :: after) (hne : name ≠ other) :
    s.lookup other = s'.lookup other := by
  have hframe : (frame.bind name value).get? other = frame.get? other := by
    rw [Bindings.get?_bind, if_neg hne]
  rw [lookup_eq, lookup_eq, hs, hs', List.findSome?_append, List.findSome?_append,
    List.findSome?_cons, List.findSome?_cons, hframe]

end Scope

/-! ## Patterns without predicates -/

namespace Pattern

/-- No node of the pattern is a predicate. -/
def PredicateFree (p : Pattern) : Prop := p.Everywhere fun q => ∀ test, q ≠ .predicate test

variable {scope scope' : Scope}

theorem visit_scope {p : Pattern} (h : ∀ test, p ≠ .predicate test) (site : Site)
    (subject : Value) : p.visit scope site subject = p.visit scope' site subject := by
  cases p with
  | predicate test => exact absurd rfl (h test)
  | sequence elements rest | mapping fields rest => cases subject <;> rfl
  | _ => rfl

end Pattern

theorem Plan.readEvery_congr {scope scope' : Scope} {site : Site} {tasks : List Task}
    (last : Reading) (h : ∀ task ∈ tasks, task.read scope site = task.read scope' site) :
    readEvery scope site tasks last = readEvery scope' site tasks last := by
  induction tasks with
  | nil => rfl
  | cons task rest ih =>
    rw [List.forall_mem_cons] at h
    rw [readEvery, readEvery, h.1, ih h.2]

theorem Plan.readFirst_congr {scope scope' : Scope} {site : Site} {tasks : List Task}
    (h : ∀ task ∈ tasks, task.read scope site = task.read scope' site) :
    readFirst scope site tasks = readFirst scope' site tasks := by
  induction tasks with
  | nil => rfl
  | cons task rest ih =>
    rw [List.forall_mem_cons] at h
    rw [readFirst, readFirst, h.1, ih h.2]

/-- A plan is followed in one scope as in another when its tasks are. -/
theorem Plan.read_congr {scope scope' : Scope} {site : Site} {plan : Plan}
    (h : ∀ task ∈ plan.tasks, task.read scope site = task.read scope' site) :
    plan.read scope site = plan.read scope' site := by
  cases plan with
  | every tasks left => exact readEvery_congr _ h
  | first tasks => exact readFirst_congr h

/-- A pattern without predicates does not see the scope. -/
theorem Pattern.PredicateFree.read_scope {p : Pattern} (h : p.PredicateFree)
    (scope scope' : Scope) (site : Site) (subject : Value) :
    p.read scope site subject = p.read scope' site subject := by
  induction p using partsInduction generalizing site subject with
  | node p ih =>
    rw [read_eq, read_eq, visit_scope h.root site subject]
    refine Run.bind_congr fun plan hplan => Plan.read_congr fun task htask => ?_
    have hpart := mem_parts_of_mem_tasks hplan htask
    exact ih task.part hpart (h.part hpart) _ task.value

theorem Compiled.outcome_scope {c : Compiled} (h : c.pattern.PredicateFree) (subject : Value)
    (scope scope' : Scope) : c.outcome subject scope = c.outcome subject scope' := by
  refine map_injective Outcome.pairs?_injective ?_
  rw [outcome, outcome, ← Run.result_map, ← Run.result_map, matchIn_reads, matchIn_reads,
    h.read_scope scope scope']

/-! ## Clauses -/

namespace Clause

variable {α : Type} {clause : Clause α} {subject : Value} {scope scope' : Scope}

/-- Nothing in the clause is handed the scope. -/
structure Plain (clause : Clause α) : Prop where
  pattern : clause.pattern.pattern.PredicateFree
  guard : ∀ guard, clause.guard = some guard → guard.BuiltIn

/-- The guard of the clause mentions the name, and its pattern does not bind it. -/
def Reads (clause : Clause α) (name : String) : Prop :=
  ∃ guard, clause.guard = some guard ∧ guard.Mentions name ∧ name ∉ clause.pattern.binders

/-- In the frame of a match, two scopes differ only in names that the pattern does not bind. -/
theorem lookup_child_of_matched {b : Bindings}
    (hb : clause.pattern.outcome subject scope = .ok (.matched b)) {name : String}
    (h : name ∉ clause.pattern.binders → scope.lookup name = scope'.lookup name) :
    (scope.child b).lookup name = (scope'.child b).lookup name := by
  rw [Scope.lookup_child, Scope.lookup_child]
  by_cases hname : name ∈ clause.pattern.binders
  · have hbound : (b.get? name).isSome := by
      refine Bindings.contains_iff.2 ?_
      exact (Compiled.names_perm_binders hb).mem_iff.2 hname
    obtain ⟨value, hvalue⟩ := Option.isSome_iff_exists.1 hbound
    rw [hvalue, Option.some_or, Option.some_or]
  · rw [h hname]

/-- A clause that is handed no scope makes the same of a subject in two scopes that agree on the names
that it reads. -/
theorem Plain.result_step (hclause : clause.Plain) (index : Nat)
    (h : ∀ name, clause.Reads name → scope.lookup name = scope'.lookup name) :
    (clause.step index subject scope).result = (clause.step index subject scope').result := by
  rw [step_eq, step_eq, Run.result_bind, Run.result_bind, Compiled.result_matchIn,
    Compiled.result_matchIn, ← Compiled.outcome_scope hclause.pattern subject scope scope']
  -- only after a match is there a guard to look at
  rcases houtcome : clause.pattern.outcome subject scope with e | (_ | b)
  · rfl
  · rfl
  · show (clause.stepAfterMatch index scope b).result = (clause.stepAfterMatch index scope' b).result
    unfold stepAfterMatch
    cases hguard : clause.guard with
    | none => rfl
    | some guard =>
      have hvalue : guard.value (scope.child b) = guard.value (scope'.child b) := by
        refine (hclause.guard guard hguard).value_congr fun name hname => ?_
        exact lookup_child_of_matched houtcome fun hfree => h name ⟨guard, hguard, hname, hfree⟩
      simp only [Run.result_bind, verdict, Run.mapError, Guard.result_evaluate, hvalue]

end Clause

/-! ## Match expressions -/

namespace MatchExpr

variable {α : Type} {expr : MatchExpr α} {subject : Value} {scope scope' : Scope}

/-- Nothing in the expression is handed the scope: no pattern contains a predicate, and the guards are
put together from comparisons and presence tests. -/
def Plain (expr : MatchExpr α) : Prop := ∀ clause ∈ expr.clauses, clause.Plain

/-- The guard of some clause mentions the name, and the pattern of that clause does not bind it. -/
def Reads (expr : MatchExpr α) (name : String) : Prop := ∃ clause ∈ expr.clauses, clause.Reads name

/-- The answer for a subject is the same in two scopes, and so is the trace, or else the error. -/
def SameIn (expr : MatchExpr α) (subject : Value) (scope scope' : Scope) : Prop :=
  (expr.evaluate subject scope).result = (expr.evaluate subject scope').result ∧
    (expr.evaluateWithTrace subject scope).result = (expr.evaluateWithTrace subject scope').result

theorem result_traceFrom_scope {clauses : List (Clause α)} (hplain : ∀ clause ∈ clauses, clause.Plain)
    (h : ∀ clause ∈ clauses, ∀ name, clause.Reads name → scope.lookup name = scope'.lookup name)
    (index : Nat) :
    (traceFrom clauses index subject scope).result
      = (traceFrom clauses index subject scope').result := by
  induction clauses generalizing index with
  | nil => rfl
  | cons clause rest ih =>
    rw [List.forall_mem_cons] at hplain h
    have hrest := ih hplain.2 h.2 (index + 1)
    rw [traceFrom_cons, traceFrom_cons, Run.result_bind, Run.result_bind,
      hplain.1.result_step index h.1]
    congr 1
    funext step
    split
    · rfl
    · rw [Run.result_map, Run.result_map, hrest]

/-- Two scopes that agree on the names that are read cannot be told apart. -/
theorem Plain.sameIn (hexpr : expr.Plain) (subject : Value)
    (h : ∀ name, expr.Reads name → scope.lookup name = scope'.lookup name) :
    expr.SameIn subject scope scope' := by
  have htrace : (expr.evaluateWithTrace subject scope).result
      = (expr.evaluateWithTrace subject scope').result := by
    rw [evaluateWithTrace_eq_map, evaluateWithTrace_eq_map, Run.result_map, Run.result_map,
      result_traceFrom_scope hexpr fun clause hclause name hname => h name ⟨clause, hclause, hname⟩]
  refine ⟨?_, htrace⟩
  rw [evaluate_eq_bind_evaluateWithTrace, evaluate_eq_bind_evaluateWithTrace, Run.result_bind,
    Run.result_bind, htrace]

/-- An evaluation that hands its scope to no extension sees of it only the names that are read. So it
comes to the same in the one frame of all visible bindings, with further frames anywhere in the chain
that bind none of these names, and with another value for a name that every clause which mentions it
binds itself. -/
theorem evaluate_visible (hexpr : expr.Plain) (subject : Value) (scope : Scope) :
    (∀ scope', (∀ name, expr.Reads name → scope.lookup name = scope'.lookup name) →
      expr.SameIn subject scope scope') ∧
    expr.SameIn subject scope (.ofBindings scope.visible) ∧
    (∀ before more after scope', scope.frames = before ++ after →
      scope'.frames = before ++ more ++ after →
        (∀ frame ∈ more, ∀ name ∈ frame.names, ¬ expr.Reads name) →
          expr.SameIn subject scope scope') ∧
    ∀ before frame after name value scope', scope.frames = before ++ frame :: after →
      scope'.frames = before ++ frame.bind name value :: after → ¬ expr.Reads name →
        expr.SameIn subject scope scope' := by
  refine ⟨fun scope' h => hexpr.sameIn subject h, ?_, ?_, ?_⟩
  · refine hexpr.sameIn subject fun name _ => ?_
    rw [Scope.lookup_ofBindings, Scope.get?_visible]
  · intro before more after scope' hs hs' hmore
    refine hexpr.sameIn subject fun name hread => Scope.lookup_insert_frames hs hs' ?_
    exact fun frame hframe hname => hmore frame hframe name hname hread
  · intro before frame after name value scope' hs hs' hunread
    refine hexpr.sameIn subject fun other hread => Scope.lookup_bind_frame hs hs' ?_
    rintro rfl
    exact hunread hread

/-- Takes a true item beside a null, unless it is a second try. -/
def firstTry : MatchExpr String where
  clauses := [⟨.besideNull,
    some (.all [.compare "item" .eq (.bool true), .not (.bound "has_retried")]), "first"⟩]
  default := some "other"

theorem firstTry_plain : firstTry.Plain := by
  refine List.forall_mem_singleton.2 ⟨?_, ?_⟩
  · simp [Compiled.besideNull, Pattern.besideNull, Pattern.PredicateFree,
      Pattern.everywhere_iff (p := .conjunction _), Pattern.everywhere_iff (p := .alternation _),
      Pattern.everywhere_iff (p := .sequence _ _), Pattern.everywhere_iff (p := .binder _),
      Pattern.everywhere_iff (p := .literal _)]
  · rintro guard ⟨⟩
    refine .all ?_
    rw [List.forall_mem_cons, List.forall_mem_singleton]
    exact ⟨.compare "item" .eq (.bool true), .not (.bound "has_retried")⟩

theorem evaluate_visible_firstTry :
    firstTry.Plain ∧ ¬ firstTry.Reads "item" ∧
      firstTry.SameIn (.sequence [.null, .bool true])
        ⟨Bindings.empty.bind "has_retried" (.bool false), [Bindings.empty.bind "item" .null]⟩
        ⟨Bindings.empty.bind "has_retried" (.bool false),
          [(Bindings.empty.bind "item" .null).bind "item" (.bool true)]⟩ := by
  have hunread : ¬ firstTry.Reads "item" := by
    rintro ⟨clause, hclause, guard, -, -, hfree⟩
    obtain rfl := List.mem_singleton.1 hclause
    exact hfree (by decide)
  obtain ⟨-, -, -, hbind⟩ := evaluate_visible firstTry_plain (.sequence [.null, .bool true])
    ⟨Bindings.empty.bind "has_retried" (.bool false), [Bindings.empty.bind "item" .null]⟩
  exact ⟨firstTry_plain, hunread,
    hbind [Bindings.empty.bind "has_retried" (.bool false)] _ [] "item" _ _ rfl rfl hunread⟩

end MatchExpr

end Destructure
