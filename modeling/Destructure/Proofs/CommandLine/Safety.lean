import Destructure.CommandLine.Report
import Destructure.Proofs.Matching.Binders
import Destructure.Proofs.Matching.Safety
import Destructure.Proofs.MatchExpr.Selection
import Destructure.Proofs.Registry.Loading
import Destructure.Regex.BuiltIn

set_option autoImplicit false

/-! # What an evaluation on data can answer

The extensions of the reference domain behave, if the subject is data: what an extractor takes apart it
delivers, and the one extractor that accepts subjects without producing anything accepts no data. An
engine delivers a record of its captures, whatever they are. So a configuration that is loaded with the
domain and any library of regular expressions fails in a comparison of a guard or by exhaustion, and in
no other way (`EvalOptions.select_answers`). -/

namespace Destructure

variable {library : Regex.Library}

/-! ## The extensions of the domain -/

namespace Domain

theorem optional?_of_isData {subject : Value} (h : subject.IsData) : optional? subject = none := by
  cases h <;> rfl

theorem keepsContract_someExtractor : someExtractor.KeepsContract := by
  intro subject hdata
  simp only [someExtractor, optional?_of_isData hdata]
  exact Extraction.delivers_rejected

theorem keepsContract_noneExtractor : noneExtractor.KeepsContract := by
  intro subject hdata
  simp only [noneExtractor, optional?_of_isData hdata]
  exact Extraction.delivers_rejected

/-- The extractors of the domain. -/
theorem source_of_mem {typeUrl : String} {make : ExtractorFactory} {settings : Json}
    {source : Extractor} (hentry : .extractor typeUrl make ∈ entries)
    (h : make settings = .ok source) :
    (∃ kind, source = .ofKind kind) ∨ source = someExtractor ∨ source = noneExtractor := by
  simp only [entries, coreEntries, List.cons_append, List.nil_append, List.mem_cons,
    Registration.extractor.injEq, reduceCtorEq, List.not_mem_nil, or_false] at hentry
  rcases hentry with ⟨-, rfl⟩ | ⟨-, rfl⟩ | ⟨-, rfl⟩
  · unfold factory at h
    split at h
    · exact .inl ⟨_, (Except.ok.inj h).symm⟩
    · cases h
  · exact .inr (.inl (Except.ok.inj h).symm)
  · exact .inr (.inr (Except.ok.inj h).symm)

theorem keepsContract_of_mem {typeUrl : String} {make : ExtractorFactory} {settings : Json}
    {source : Extractor} (hentry : .extractor typeUrl make ∈ entries)
    (h : make settings = .ok source) : source.KeepsContract := by
  rcases source_of_mem hentry h with ⟨kind, rfl⟩ | rfl | rfl
  · exact Extractor.keepsContract_ofKind kind
  · exact keepsContract_someExtractor
  · exact keepsContract_noneExtractor

theorem neverFails_of_mem {name : String} {test : Predicate}
    (hentry : .predicate name test ∈ entries) : test.NeverFails := by
  simp only [entries, coreEntries, List.cons_append, List.nil_append, List.mem_cons,
    Registration.predicate.injEq, reduceCtorEq, List.not_mem_nil, false_or, or_false] at hentry
  obtain ⟨-, rfl⟩ := hentry
  exact fun subject scope => ⟨_, rfl⟩

theorem value_ne_error_of_mem {name : String} {guard : Guard}
    (hentry : .guard name guard ∈ entries) (scope : Scope) (e : GuardError) :
    guard.value scope ≠ .error e := by
  simp only [entries, coreEntries, List.cons_append, List.nil_append, List.mem_cons,
    Registration.guard.injEq, reduceCtorEq, List.not_mem_nil, false_or, or_false] at hentry
  obtain ⟨-, rfl⟩ := hentry
  rw [canRetry, Ne, Guard.value_not_eq_error]
  rintro ⟨⟩

/-- A node that takes its extension from the domain behaves. -/
theorem behaves_of_registered {p : Pattern} (h : p.Registered library registry) : p.Behaves := by
  have hfrom : registry.From entries := Registry.from_ofList entries
  cases p with
  | predicate test =>
    obtain ⟨name, hname⟩ := h
    exact neverFails_of_mem (hfrom.predicates _ _ hname)
  | extractor source inner =>
    obtain ⟨typeUrl, make, settings, hmake, hsource⟩ := h
    exact keepsContract_of_mem (hfrom.extractors _ _ hmake) hsource
  | _ => trivial

/-- Of the guards that are loaded only comparisons fail. -/
theorem exists_comparison_of_explains {comparisons : List (String × CompareOp × Json)}
    {scope : Scope} {e : GuardError} (h : registry.Explains comparisons scope e) :
    ∃ binding op value, (binding, op, value) ∈ comparisons ∧
      Guard.compareIn binding op (Value.ofJson value) scope = .error e := by
  have hfrom : registry.From entries := Registry.from_ofList entries
  rcases h with h | ⟨name, guard, hguard, he⟩
  · exact h
  · exact absurd he (value_ne_error_of_mem (hfrom.guards _ _ hguard) scope e)

end Domain

/-! ## Comparisons with binders -/

/-- Whether a bound name equals a constant can always be told. -/
theorem Guard.compareIn_ok {binding : String} {op : CompareOp} (hop : op = .eq ∨ op = .ne)
    {scope : Scope} {actual : Value} (hbound : scope.lookup binding = some actual) (value : Value)
    (e : GuardError) : compareIn binding op value scope ≠ .error e := by
  rw [compareIn, hbound]
  rcases hop with rfl | rfl
  · exact fun h => by cases h
  · exact fun h => by cases h

/-- In the scope of a match every binder of the pattern is bound. -/
theorem Compiled.lookup_binder {c : Compiled} {subject : Value} {scope : Scope} {b : Bindings}
    (h : c.outcome subject scope = .ok (.matched b)) {name : String} (hname : name ∈ c.binders) :
    ∃ value, (scope.child b).lookup name = some value := by
  have hmem : name ∈ b.names := (names_perm_binders h).mem_iff.2 hname
  obtain ⟨value, hvalue⟩ := Option.isSome_iff_exists.1 (Bindings.contains_iff.2 hmem)
  exact ⟨value, by rw [Scope.lookup_child, hvalue, Option.some_or]⟩

variable {α : Type}

/-- Every comparison asks whether a binder of its own clause equals a constant, or whether it does not;
`binders` are the binders of the clauses, in order. -/
def MatchConfig.ComparesBinders (config : MatchConfig α) (binders : List (List String)) : Prop :=
  ∀ (i : Nat) (c : ClauseConfig α) (g : GuardConfig), config.clauses[i]? = some c →
    c.guard = some g → ∀ binding op value, (binding, op, value) ∈ g.comparisons →
      (op = .eq ∨ op = .ne) ∧ ∃ names, binders[i]? = some names ∧ binding ∈ names

/-! ## Evaluations of loaded configurations -/

namespace Domain

variable {config : MatchConfig α} {expr : MatchExpr α} {subject : Value} {scope : Scope}

theorem clause_of_loadMatch (hload : registry.loadMatch library config = .ok expr) {i : Nat}
    {clause : Clause α} (h : expr.clauses[i]? = some clause) :
    ∃ c, config.clauses[i]? = some c ∧ registry.Loads library c clause := by
  obtain ⟨hclauses, -⟩ := Registry.loadMatch_eq_ok hload
  obtain ⟨hi, rfl⟩ := List.getElem?_eq_some_iff.1 h
  have hi' : i < config.clauses.length := hclauses.length_eq ▸ hi
  exact ⟨_, List.getElem?_eq_getElem hi', hclauses.get hi' hi⟩

/-- What a loaded match expression selects is the body of a clause, or the default. -/
theorem body_of_evaluate (hload : registry.loadMatch library config = .ok expr)
    {selection : Selection α} (h : (expr.evaluate subject scope).result = .ok selection) :
    selection.clause = none ∧ config.default = some selection.body ∨
      ∃ i c, selection.clause = some i ∧ config.clauses[i]? = some c ∧
        c.body = selection.body := by
  obtain ⟨clause?, body, b⟩ := selection
  cases clause? with
  | none =>
    obtain ⟨-, hbody, -⟩ := MatchExpr.evaluate_eq_default.1 h
    exact .inl ⟨rfl, (Registry.loadMatch_eq_ok hload).2 ▸ hbody⟩
  | some i =>
    obtain ⟨clause, hreaches, -, rfl⟩ := MatchExpr.evaluate_eq_clause.1 h
    obtain ⟨c, hc, hloads⟩ := clause_of_loadMatch hload hreaches.1
    exact .inr ⟨i, c, rfl, hc, hloads.body.symm⟩

/-- On data a loaded match expression is exhausted, or it fails in a comparison of a guard whose
clause has matched. -/
theorem evaluate_eq_error (hload : registry.loadMatch library config = .ok expr)
    (hdata : subject.IsData) {e : MatchError} (h : (expr.evaluate subject scope).result = .error e) :
    e = .exhausted config.clauses.length ∧ config.default = none ∨
      ∃ i source c g clause b, e = .guardEvaluation i source ∧ config.clauses[i]? = some c ∧
        c.guard = some g ∧ expr.clauses[i]? = some clause ∧
        clause.pattern.outcome subject scope = .ok (.matched b) ∧
        ∃ binding op value, (binding, op, value) ∈ g.comparisons ∧
          Guard.compareIn binding op (Value.ofJson value) (scope.child b) = .error source := by
  obtain ⟨hclauses, hdefault⟩ := Registry.loadMatch_eq_ok hload
  by_cases hexhausted : e.isExhausted
  · obtain ⟨n, rfl⟩ : ∃ n, e = .exhausted n := by cases e <;> simp_all [MatchError.isExhausted]
    obtain ⟨-, hnone, rfl⟩ := MatchExpr.evaluate_eq_exhausted.1 h
    exact .inl ⟨by rw [hclauses.length_eq], hdefault ▸ hnone⟩
  · obtain ⟨i, clause, ⟨hclause, -⟩, hfault⟩ :=
      (MatchExpr.evaluate_eq_error_of_not_exhausted hexhausted).1 h
    obtain ⟨c, hc, hloads⟩ := clause_of_loadMatch hload hclause
    rcases hfault with houtcome | ⟨source, ⟨b, guard, houtcome, hguard, hsource⟩, rfl⟩
    · -- the pattern is made of extensions of the domain, so it does not fail
      obtain ⟨outcome, hok⟩ := Compiled.outcome_ok
        (hloads.pattern.mono fun _ => behaves_of_registered) hdata scope []
      exact absurd (hok.symm.trans houtcome) (by simp)
    · obtain ⟨g, hg, hloadg⟩ := hloads.guard guard hguard
      exact .inr ⟨i, source, c, g, clause, b, rfl, hc, hg, hclause, houtcome,
        exists_comparison_of_explains (Registry.fails_of_loadGuardAt g hloadg hsource)⟩

end Domain

namespace EvalOptions

/-- A selection is made by a match expression that was loaded. -/
theorem select_eq_ok {options : EvalOptions} {config : MatchConfig String}
    {selection : Selection String} : options.select library config = .ok selection ↔
      ∃ expr, Domain.registry.loadMatch library config = .ok expr ∧
        (expr.evaluate (Value.ofJson options.subject) (.ofBindings options.scope)).result
          = .ok selection := by
  rw [select, bind_eq_ok]
  simp only [mapError_eq_ok]

theorem select_eq_error {config : MatchConfig String} {expr : MatchExpr String}
    (hload : Domain.registry.loadMatch library config = .ok expr) {options : EvalOptions}
    {e : CommandError} (h : options.select library config = .error e) :
    ∃ source, e = .evaluation source ∧
      (expr.evaluate (Value.ofJson options.subject) (.ofBindings options.scope)).result
        = .error source := by
  rw [select, hload] at h
  obtain ⟨source, hresult, rfl⟩ := mapError_eq_error.1 h
  exact ⟨source, rfl, hresult⟩

/-- What an evaluation of a configuration that can be loaded answers. It selects a clause, or the
default; it is exhausted, if there is no default; or it fails in the guard of a clause, and then the
guard has a comparison. If there is a default, and every comparison asks whether a binder of its own
clause equals a constant, it does not fail. Nothing is assumed of the library. -/
theorem select_answers {config : MatchConfig String} {expr : MatchExpr String}
    (hload : Domain.registry.loadMatch library config = .ok expr) (options : EvalOptions) :
    ((∃ selection, options.select library config = .ok selection ∧
        (selection.clause = none ∧ config.default = some selection.body ∨
          ∃ i c, selection.clause = some i ∧ config.clauses[i]? = some c ∧
            c.body = selection.body)) ∨
      (options.select library config = .error (.evaluation (.exhausted config.clauses.length)) ∧
        config.default = none) ∨
      ∃ i source c g,
        options.select library config = .error (.evaluation (.guardEvaluation i source)) ∧
        config.clauses[i]? = some c ∧ c.guard = some g ∧ g.comparisons ≠ []) ∧
    (config.default.isSome →
      config.ComparesBinders (expr.clauses.map fun clause => clause.pattern.binders) →
        ∃ selection, options.select library config = .ok selection) := by
  have hdata := Value.isData_ofJson options.subject
  refine ⟨?_, fun hdefault hcompares => ?_⟩
  · cases hselect : options.select library config with
    | ok selection =>
      obtain ⟨_, hloaded, hresult⟩ := select_eq_ok.1 hselect
      exact .inl ⟨selection, rfl, Domain.body_of_evaluate hloaded hresult⟩
    | error e =>
      obtain ⟨source, rfl, hresult⟩ := select_eq_error hload hselect
      rcases Domain.evaluate_eq_error hload hdata hresult with
        ⟨rfl, hnone⟩ | ⟨i, source, c, g, -, -, rfl, hc, hg, -, -, _, _, _, hmem, -⟩
      · exact .inr (.inl ⟨rfl, hnone⟩)
      · exact .inr (.inr ⟨i, source, c, g, rfl, hc, hg, List.ne_nil_of_mem hmem⟩)
  · cases hselect : options.select library config with
    | ok selection => exact ⟨selection, rfl⟩
    | error e =>
      obtain ⟨source, rfl, hresult⟩ := select_eq_error hload hselect
      rcases Domain.evaluate_eq_error hload hdata hresult with ⟨-, hnone⟩ |
        ⟨i, source, c, g, clause, b, rfl, hc, hg, hclause, houtcome, binding, op, value, hmem, he⟩
      · simp [hnone] at hdefault
      · -- a clause that has matched binds all its binders, so its comparisons find their names
        obtain ⟨hop, names, hnames, hbinding⟩ := hcompares i c g hc hg binding op value hmem
        obtain rfl : clause.pattern.binders = names := by simpa [hclause] using hnames
        obtain ⟨actual, hactual⟩ := Compiled.lookup_binder houtcome hbinding
        exact absurd he (Guard.compareIn_ok hop hactual _ _)

/-- Optional values that are absent, which data never is, and texts other than one. -/
def absentOrOther : MatchConfig String where
  clauses := [
    ⟨none, some (.extractor ⟨"test.v1.OptionNone", .null⟩ (some (.mapping [] none))), none, "absent"⟩,
    ⟨none, some (.conjunction [.regex "a+" none, .bind "x"]),
      some (.compare "x" .ne (.text "b")), "other"⟩]
  default := some "none of them"

theorem select_answers_absentOrOther :
    ∃ expr, Domain.registry.loadMatch Regex.builtIn absentOrOther = .ok expr ∧
      absentOrOther.ComparesBinders (expr.clauses.map fun clause => clause.pattern.binders) ∧
      ∃ selection, select Regex.builtIn ⟨.text "caat", .empty⟩ absentOrOther = .ok selection := by
  have hbinders : (fun expr => expr.clauses.map fun clause => clause.pattern.binders)
      <$> Domain.registry.loadMatch Regex.builtIn absentOrOther = .ok [[], ["x"]] := by rfl
  obtain ⟨expr, hload, hbinders⟩ := map_eq_ok.1 hbinders
  have hcompares : absentOrOther.ComparesBinders
      (expr.clauses.map fun clause => clause.pattern.binders) := by
    rw [hbinders]
    intro i c g hc hg binding op value hmem
    match i with
    | 0 =>
      obtain rfl := Option.some.inj hc
      cases hg
    | 1 =>
      obtain rfl := Option.some.inj hc
      obtain rfl := Option.some.inj hg
      obtain ⟨rfl, rfl, -⟩ : binding = "x" ∧ op = .ne ∧ value = .text "b" := by
        simpa [GuardConfig.comparisons] using hmem
      exact ⟨.inr rfl, _, rfl, List.mem_singleton_self _⟩
    | i + 2 => cases hc
  exact ⟨expr, hload, hcompares, (select_answers hload _).2 rfl hcompares⟩

end EvalOptions

end Destructure
