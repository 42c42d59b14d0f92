import Destructure.Proofs.Guard.Evaluation
import Destructure.Proofs.Pattern.Analysis
import Destructure.Proofs.Registry.Contents
import Destructure.Registry.Loader

set_option autoImplicit false

/-! # What loading builds

Loading takes nothing from anywhere but the configuration, the registry and the library of regular
expressions. The extensions of a loaded pattern come from the tables of the registry and its engines
from the library (`Pattern.Registered`), a loaded guard fails only as one of the comparisons in its
configuration or as a registered guard does (`Registry.fails_of_loadGuardAt`), and a loaded match
expression has one clause for each clause of its configuration (`Registry.loadClauses_eq_ok`). What a
registry holds it was given (`Registry.from_ofList`). -/

namespace Destructure

/-! ## Registries -/

namespace Registry

/-- What is in the tables is among these entries. -/
structure From (r : Registry) (entries : List Registration) : Prop where
  extractors : ∀ typeUrl factory, r.extractors.find? typeUrl = some factory →
    .extractor typeUrl factory ∈ entries
  predicates : ∀ name test, r.predicates.find? name = some test → .predicate name test ∈ entries
  guards : ∀ name guard, r.guards.find? name = some guard → .guard name guard ∈ entries
  constants : ∀ name value, r.constants.find? name = some value → .constant name value ∈ entries

/-- A registry holds what it was given. -/
theorem from_ofList (entries : List Registration) : (ofList entries).From entries :=
  have hholds := holds_ofList entries
  { extractors _ _ := hholds.mem_of_find? .extractor
    predicates _ _ := hholds.mem_of_find? .predicate
    guards _ _ := hholds.mem_of_find? .guard
    constants _ _ := hholds.mem_of_find? .constant }

theorem resolve_eq_ok {α : Type} {kind : TableKind} {table : Table α} {name : String} {a : α} :
    resolve kind table name = .ok a ↔ table.find? name = some a := by
  unfold resolve
  cases table.find? name <;> simp

end Registry

/-! ## Patterns -/

variable {library : Regex.Library}

/-- The extension of the node comes from the registry, if it calls one, and an engine from the
library. -/
def Pattern.Registered (library : Regex.Library) (r : Registry) : Pattern → Prop
  | .predicate test => ∃ name, r.predicates.find? name = some test
  | .extractor source _ => ∃ typeUrl factory settings,
      r.extractors.find? typeUrl = some factory ∧ factory settings = .ok source
  | .regex engine _ => ∃ expression, compileExpression library expression = .ok engine
  | _ => True

/-- An engine is that of a matcher of the library. -/
theorem exists_matcher_of_compileExpression {source : String} {engine : Regex.Engine}
    (h : compileExpression library source = .ok engine) :
    ∃ m, library.compile source = .ok m ∧ engine = m.engine := by
  unfold compileExpression at h
  split at h
  · cases h
  · split at h
    · next m hcompile => exact ⟨m, hcompile, (Except.ok.inj h).symm⟩
    · cases h

theorem Pattern.everywhere_of_parts_eq_nil {P : Pattern → Prop} {p : Pattern} (hparts : p.parts = [])
    (h : P p) : p.Everywhere P := by
  refine everywhere_iff.2 ⟨h, ?_⟩
  simp [hparts]

namespace Registry

open Pattern

variable {r : Registry}

mutual

/-- The extensions of a loaded pattern come from the registry. -/
theorem registered_loadPatternAt (config : PatternConfig) {level : Nat} {p : Pattern}
    (h : loadPatternAt library r config level = .ok p) : p.Everywhere (Registered library r) := by
  cases config with
  | literal value =>
    rw [loadPatternAt, bind_eq_ok] at h
    obtain ⟨-, -, h⟩ := h
    obtain rfl := Except.ok.inj h
    exact everywhere_of_parts_eq_nil rfl trivial
  | wildcard =>
    rw [loadPatternAt, bind_eq_ok] at h
    obtain ⟨-, -, h⟩ := h
    obtain rfl := Except.ok.inj h
    exact everywhere_of_parts_eq_nil rfl trivial
  | bind name =>
    rw [loadPatternAt, bind_eq_ok] at h
    obtain ⟨-, -, h⟩ := h
    obtain rfl := Except.ok.inj h
    exact everywhere_of_parts_eq_nil rfl trivial
  | sequence elements rest =>
    simp only [loadPatternAt, bind_eq_ok] at h
    obtain ⟨-, -, -, -, loaded, hloaded, h⟩ := h
    obtain rfl := Except.ok.inj h
    refine everywhere_iff.2 ⟨trivial, fun q hq => ?_⟩
    rw [parts_sequence, List.reduceOption_mem_iff] at hq
    exact registered_loadElements elements hloaded q hq
  | mapping fields rest =>
    simp only [loadPatternAt, bind_eq_ok] at h
    obtain ⟨-, -, -, -, loaded, hloaded, h⟩ := h
    obtain rfl := Except.ok.inj h
    refine everywhere_iff.2 ⟨trivial, ?_⟩
    rw [parts_mapping, List.forall_mem_map]
    exact registered_loadFields fields hloaded
  | alternation branches =>
    simp only [loadPatternAt, bind_eq_ok] at h
    obtain ⟨-, -, -, -, loaded, hloaded, h⟩ := h
    obtain rfl := Except.ok.inj h
    refine everywhere_iff.2 ⟨trivial, ?_⟩
    rw [parts_alternation]
    exact registered_loadPatterns branches hloaded
  | conjunction members =>
    simp only [loadPatternAt, bind_eq_ok] at h
    obtain ⟨-, -, -, -, loaded, hloaded, h⟩ := h
    obtain rfl := Except.ok.inj h
    refine everywhere_iff.2 ⟨trivial, ?_⟩
    rw [parts_conjunction]
    exact registered_loadPatterns members hloaded
  | predicate name =>
    simp only [loadPatternAt, bind_eq_ok, resolve_eq_ok] at h
    obtain ⟨-, -, test, htest, h⟩ := h
    obtain rfl := Except.ok.inj h
    exact everywhere_of_parts_eq_nil rfl ⟨name, htest⟩
  | extractor reference inner =>
    simp only [loadPatternAt, loadExtractor, bind_eq_ok, resolve_eq_ok] at h
    obtain ⟨-, -, source, ⟨factory, hfactory, hsource⟩, loaded, hloaded, h⟩ := h
    obtain rfl := Except.ok.inj h
    refine everywhere_iff.2 ⟨⟨_, factory, _, hfactory, hsource⟩, ?_⟩
    rw [parts_extractor]
    exact registered_loadInner inner hloaded
  | regex expression inner =>
    simp only [loadPatternAt, bind_eq_ok] at h
    obtain ⟨-, -, engine, hengine, loaded, hloaded, h⟩ := h
    obtain rfl := Except.ok.inj h
    refine everywhere_iff.2 ⟨⟨expression, hengine⟩, ?_⟩
    rw [parts_regex]
    exact registered_loadInner inner hloaded
  | constant name =>
    simp only [loadPatternAt, bind_eq_ok] at h
    obtain ⟨-, -, value, -, h⟩ := h
    obtain rfl := Except.ok.inj h
    exact everywhere_of_parts_eq_nil rfl trivial

theorem registered_loadPatterns (configs : List PatternConfig) {level : Nat} {ps : List Pattern}
    (h : loadPatterns library r configs level = .ok ps) :
    ∀ p ∈ ps, p.Everywhere (Registered library r) := by
  cases configs with
  | nil =>
    rw [loadPatterns] at h
    obtain rfl := Except.ok.inj h
    simp
  | cons config rest =>
    simp only [loadPatterns, bind_eq_ok] at h
    obtain ⟨p, hp, others, hothers, h⟩ := h
    obtain rfl := Except.ok.inj h
    rw [List.forall_mem_cons]
    exact ⟨registered_loadPatternAt config hp, registered_loadPatterns rest hothers⟩

theorem registered_loadElements (configs : List (Option PatternConfig)) {level : Nat}
    {elements : List (Option Pattern)} (h : loadElements library r configs level = .ok elements) :
    ∀ p, some p ∈ elements → p.Everywhere (Registered library r) := by
  match configs with
  | [] =>
    rw [loadElements] at h
    obtain rfl := Except.ok.inj h
    simp
  | none :: rest =>
    simp only [loadElements, bind_eq_ok] at h
    obtain ⟨others, hothers, h⟩ := h
    obtain rfl := Except.ok.inj h
    simpa using registered_loadElements rest hothers
  | some config :: rest =>
    simp only [loadElements, bind_eq_ok] at h
    obtain ⟨p, hp, others, hothers, h⟩ := h
    obtain rfl := Except.ok.inj h
    intro q hq
    rcases List.mem_cons.1 hq with hq | hq
    · obtain rfl := Option.some.inj hq
      exact registered_loadPatternAt config hp
    · exact registered_loadElements rest hothers q hq

theorem registered_loadFields (configs : List (String × PatternConfig)) {level : Nat}
    {fields : List (String × Pattern)} (h : loadFields library r configs level = .ok fields) :
    ∀ field ∈ fields, field.2.Everywhere (Registered library r) := by
  match configs with
  | [] =>
    rw [loadFields] at h
    obtain rfl := Except.ok.inj h
    simp
  | (key, config) :: rest =>
    simp only [loadFields, bind_eq_ok] at h
    obtain ⟨p, hp, others, hothers, h⟩ := h
    obtain rfl := Except.ok.inj h
    rw [List.forall_mem_cons]
    exact ⟨registered_loadPatternAt config hp, registered_loadFields rest hothers⟩

theorem registered_loadInner (config : Option PatternConfig) {level : Nat} {inner : Option Pattern}
    (h : loadInner library r config level = .ok inner) :
    ∀ p ∈ inner.toList, p.Everywhere (Registered library r) := by
  cases config with
  | none =>
    rw [loadInner] at h
    obtain rfl := Except.ok.inj h
    simp
  | some config =>
    simp only [loadInner, bind_eq_ok] at h
    obtain ⟨p, hp, h⟩ := h
    obtain rfl := Except.ok.inj h
    simpa using registered_loadPatternAt config hp

end

/-- A clause head keeps the extensions of its two parts. -/
theorem registered_head {head : Head}
    (hcapture : ∀ p, head.capture = some p → p.Everywhere (Registered library r))
    (htest : ∀ p, head.test = some p → p.Everywhere (Registered library r)) :
    head.pattern.Everywhere (Registered library r) := by
  obtain ⟨capture, test⟩ := head
  cases capture with
  | none =>
    cases test with
    | none => exact everywhere_of_parts_eq_nil rfl trivial
    | some test => exact htest test rfl
  | some capture =>
    have hinner : capture.Everywhere (Registered library r) := hcapture capture rfl
    cases test with
    | none => exact hinner
    | some test =>
      have houter : test.Everywhere (Registered library r) := htest test rfl
      simp only [Head.pattern, Head.join]
      split
      · exact everywhere_iff.2 ⟨houter.root, by simpa using hinner⟩
      · exact everywhere_iff.2 ⟨houter.root, by simpa using hinner⟩
      · exact everywhere_iff.2 ⟨trivial, by simpa using ⟨houter, hinner⟩⟩

end Registry

/-! ## Guards -/

mutual

/-- The comparisons of a configuration, from left to right. -/
def GuardConfig.comparisons : GuardConfig → List (String × CompareOp × Json)
  | .compare binding op value => [(binding, op, value)]
  | .all members => GuardConfig.comparisonsOf members
  | .any members => GuardConfig.comparisonsOf members
  | .not inner => inner.comparisons
  | .bound _ => []
  | .named _ => []

def GuardConfig.comparisonsOf : List GuardConfig → List (String × CompareOp × Json)
  | [] => []
  | config :: rest => config.comparisons ++ GuardConfig.comparisonsOf rest

end

namespace Registry

variable {r : Registry}

/-- A failure in a scope that is that of a comparison of the list, or that of a registered guard. -/
def Explains (r : Registry) (comparisons : List (String × CompareOp × Json)) (scope : Scope)
    (e : GuardError) : Prop :=
  (∃ binding op value, (binding, op, value) ∈ comparisons ∧
    Guard.compareIn binding op (Value.ofJson value) scope = .error e) ∨
  ∃ name guard, r.guards.find? name = some guard ∧ guard.value scope = .error e

theorem Explains.mono {comparisons others : List (String × CompareOp × Json)} {scope : Scope}
    {e : GuardError} (h : r.Explains comparisons scope e) (hsubset : comparisons ⊆ others) :
    r.Explains others scope e := by
  rcases h with ⟨binding, op, value, hmem, h⟩ | h
  · exact .inl ⟨binding, op, value, hsubset hmem, h⟩
  · exact .inr h

mutual

/-- A loaded guard fails as a comparison of its configuration does, or a registered guard. -/
theorem fails_of_loadGuardAt (config : GuardConfig) {level : Nat} {guard : Guard} {scope : Scope}
    {e : GuardError} (h : loadGuardAt r config level = .ok guard)
    (he : guard.value scope = .error e) : r.Explains config.comparisons scope e := by
  cases config with
  | compare binding op value =>
    simp only [loadGuardAt, bind_eq_ok] at h
    obtain ⟨-, -, h⟩ := h
    obtain rfl := Except.ok.inj h
    exact .inl ⟨binding, op, value, by simp [GuardConfig.comparisons], he⟩
  | bound name =>
    simp only [loadGuardAt, bind_eq_ok] at h
    obtain ⟨-, -, h⟩ := h
    obtain rfl := Except.ok.inj h
    cases he
  | named name =>
    simp only [loadGuardAt, bind_eq_ok, resolve_eq_ok] at h
    obtain ⟨-, -, h⟩ := h
    exact .inr ⟨name, guard, h, he⟩
  | not inner =>
    simp only [loadGuardAt, bind_eq_ok] at h
    obtain ⟨-, -, loaded, hloaded, h⟩ := h
    obtain rfl := Except.ok.inj h
    rw [GuardConfig.comparisons]
    exact fails_of_loadGuardAt inner hloaded (Guard.value_not_eq_error.1 he)
  | all members =>
    simp only [loadGuardAt, bind_eq_ok] at h
    obtain ⟨-, -, -, -, loaded, hloaded, h⟩ := h
    obtain rfl := Except.ok.inj h
    obtain ⟨m, hm, he⟩ := Guard.value_all_eq_error he
    rw [GuardConfig.comparisons]
    exact fails_of_loadGuards members hloaded hm he
  | any members =>
    simp only [loadGuardAt, bind_eq_ok] at h
    obtain ⟨-, -, -, -, loaded, hloaded, h⟩ := h
    obtain rfl := Except.ok.inj h
    obtain ⟨m, hm, he⟩ := Guard.value_any_eq_error he
    rw [GuardConfig.comparisons]
    exact fails_of_loadGuards members hloaded hm he

theorem fails_of_loadGuards (configs : List GuardConfig) {level : Nat} {guards : List Guard}
    {scope : Scope} {e : GuardError} {guard : Guard} (h : loadGuards r configs level = .ok guards)
    (hguard : guard ∈ guards) (he : guard.value scope = .error e) :
    r.Explains (GuardConfig.comparisonsOf configs) scope e := by
  cases configs with
  | nil =>
    rw [loadGuards] at h
    obtain rfl := Except.ok.inj h
    cases hguard
  | cons config rest =>
    simp only [loadGuards, bind_eq_ok] at h
    obtain ⟨first, hfirst, others, hothers, h⟩ := h
    obtain rfl := Except.ok.inj h
    rw [GuardConfig.comparisonsOf]
    rcases List.mem_cons.1 hguard with rfl | hguard
    · exact (fails_of_loadGuardAt config hfirst he).mono (List.subset_append_left _ _)
    · exact (fails_of_loadGuards rest hothers hguard he).mono (List.subset_append_right _ _)

end

/-! ## Clauses and match expressions -/

variable {α : Type}

theorem loadOptional_eq_ok {β γ : Type} {load : β → Except PatternError γ} {config : Option β}
    {loaded : Option γ} (h : loadOptional load config = .ok loaded) {c : γ} (hc : loaded = some c) :
    ∃ b, config = some b ∧ load b = .ok c := by
  cases config with
  | none =>
    obtain rfl := Except.ok.inj h
    cases hc
  | some b =>
    obtain ⟨c', hc', rfl⟩ := map_eq_ok.1 h
    obtain rfl := Option.some.inj hc
    exact ⟨b, rfl, hc'⟩

/-- What a clause keeps of the configuration that it was loaded from. -/
structure Loads (library : Regex.Library) (r : Registry) (config : ClauseConfig α)
    (clause : Clause α) : Prop where
  body : clause.body = config.body
  pattern : clause.pattern.pattern.Everywhere (Pattern.Registered library r)
  guard : ∀ guard, clause.guard = some guard →
    ∃ g, config.guard = some g ∧ r.loadGuard g = .ok guard

theorem loads_of_loadClause {config : ClauseConfig α} {clause : Clause α}
    (h : r.loadClause library config = .ok clause) : r.Loads library config clause := by
  simp only [loadClause, Clause.ofHead, bind_eq_ok] at h
  obtain ⟨capture, hcapture, test, htest, before, ⟨compiled, hcompiled, hbefore⟩, guard, hguard, h⟩ :=
    h
  obtain rfl := Except.ok.inj hbefore
  obtain rfl := Except.ok.inj h
  refine ⟨rfl, ?_, fun guard' hguard' => loadOptional_eq_ok hguard hguard'⟩
  show compiled.pattern.Everywhere _
  rw [Pattern.compile_eq_ok.1 hcompiled]
  refine registered_head (fun p hp => ?_) fun p hp => ?_
  · obtain ⟨c, -, hc⟩ := loadOptional_eq_ok hcapture hp
    exact registered_loadPatternAt c hc
  · obtain ⟨c, -, hc⟩ := loadOptional_eq_ok htest hp
    exact registered_loadPatternAt c hc

/-- Loading keeps the clauses in their order. -/
theorem loadClauses_eq_ok {configs : List (ClauseConfig α)} {clauses : List (Clause α)}
    (h : r.loadClauses library configs = .ok clauses) :
    List.Forall₂ (fun config clause => r.loadClause library config = .ok clause) configs clauses := by
  induction configs generalizing clauses with
  | nil =>
    rw [loadClauses] at h
    obtain rfl := Except.ok.inj h
    exact .nil
  | cons config rest ih =>
    simp only [loadClauses, bind_eq_ok] at h
    obtain ⟨clause, hclause, others, hothers, h⟩ := h
    obtain rfl := Except.ok.inj h
    exact .cons hclause (ih hothers)

theorem loadMatch_eq_ok {config : MatchConfig α} {expr : MatchExpr α}
    (h : r.loadMatch library config = .ok expr) :
    List.Forall₂ (r.Loads library) config.clauses expr.clauses ∧ expr.default = config.default := by
  simp only [loadMatch, bind_eq_ok] at h
  obtain ⟨-, -, clauses, hclauses, h⟩ := h
  obtain rfl := Except.ok.inj h
  exact ⟨(loadClauses_eq_ok hclauses).imp fun _ _ => loads_of_loadClause, rfl⟩

end Registry

end Destructure
