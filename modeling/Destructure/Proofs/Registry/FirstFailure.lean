import Destructure.Proofs.Config.Tree
import Destructure.Proofs.Registry.Translation

set_option autoImplicit false

/-! # The first failure of loading

Loading goes through a configuration in a fixed order and stops at the first thing that is wrong. All
that is wrong with a configuration can be listed without stopping: the failures of a node depend on
its level, on the number of its children and on what it refers to (`Registry.patternFailures`,
`Registry.guardFailures`), and those of a clause are these and that of its head
(`Registry.clauseFailures`). Loading fails with the first entry of the list, and succeeds when the list
is empty (`Registry.loadMatch_firstFailure`). -/

namespace Destructure

/-! ## Results and lists of failures -/

/-- The computation fails with the first one of these failures, and if there is none it does not
fail. -/
def FailsFirst {ε α : Type} (result : Except ε α) (failures : List ε) : Prop :=
  ∀ e, result = .error e ↔ failures.head? = some e

/-- The failure of a computation, as a list. -/
def failuresOf {ε α : Type} : Except ε α → List ε
  | .ok _ => []
  | .error e => [e]

namespace FailsFirst

variable {ε α β : Type} {result : Except ε α} {failures later : List ε}

theorem ok (a : α) : FailsFirst (.ok a : Except ε α) [] := by
  intro e
  simp

theorem error (e : ε) : FailsFirst (.error e : Except ε α) [e] := by
  intro e'
  simp

theorem self (result : Except ε α) : FailsFirst result (failuresOf result) := by
  cases result with
  | ok a => exact ok a
  | error e => exact error e

theorem ite {P : Prop} [Decidable P] (e : ε) (a : α) :
    FailsFirst (if P then .error e else .ok a) (if P then [e] else []) := by
  split
  · exact error e
  · exact ok a

/-- A computation succeeds when there is no failure. -/
theorem exists_ok_iff (h : FailsFirst result failures) :
    (∃ a, result = .ok a) ↔ failures = [] := by
  rw [← List.head?_eq_none_iff, Option.eq_none_iff_forall_ne_some]
  cases result with
  | ok a =>
    refine iff_of_true ⟨a, rfl⟩ fun e he => ?_
    cases (h e).2 he
  | error e =>
    refine iff_of_false (fun ⟨a, ha⟩ => by cases ha) fun hnone => ?_
    exact hnone e ((h e).1 rfl)

/-- The failures of a second step come after those of the first one, and count when there are none of
these. -/
theorem bind {next : α → Except ε β} (h : FailsFirst result failures)
    (hnext : ∀ a, result = .ok a → FailsFirst (next a) later) :
    FailsFirst (result >>= next) (failures ++ later) := by
  intro e
  cases result with
  | error e' =>
    have hfirst : failures.head? = some e' := (h e').1 rfl
    rw [List.head?_append, hfirst]
    show Except.error e' = _ ↔ _
    simp
  | ok a =>
    -- the first step does not fail, so nothing stands before the failures of the second
    obtain rfl : failures = [] := h.exists_ok_iff.1 ⟨a, rfl⟩
    exact hnext a rfl e

theorem bind_ok (h : FailsFirst result failures) (build : α → β) :
    FailsFirst (result >>= fun a => .ok (build a)) failures := by
  have hbind := h.bind fun a _ => ok (build a)
  rwa [List.append_nil] at hbind

end FailsFirst

/-- The computation fails with the first one of these failures, and what it comes to without any has
the property. -/
structure FailsOr {ε α : Type} (result : Except ε α) (failures : List ε) (P : α → Prop) : Prop where
  fails : FailsFirst result failures
  holds : ∀ a, result = .ok a → P a

namespace FailsOr

variable {ε α β : Type} {result : Except ε α} {failures later : List ε} {P : α → Prop}
  {Q : β → Prop}

theorem ok {a : α} (h : P a) : FailsOr (.ok a : Except ε α) [] P := by
  refine ⟨.ok a, ?_⟩
  rintro _ ⟨⟩
  exact h

theorem error (e : ε) : FailsOr (.error e) [e] P := ⟨.error e, nofun⟩

theorem self (result : Except ε α) : FailsOr result (failuresOf result) fun a => result = .ok a :=
  ⟨.self result, fun _ ha => ha⟩

theorem bind {next : α → Except ε β} (h : FailsOr result failures P)
    (hnext : ∀ a, P a → FailsOr (next a) later Q) :
    FailsOr (result >>= next) (failures ++ later) Q := by
  refine ⟨h.fails.bind fun a ha => (hnext a (h.holds a ha)).fails, fun b hb => ?_⟩
  obtain ⟨a, ha, hb⟩ := bind_eq_ok.1 hb
  exact (hnext a (h.holds a ha)).holds b hb

theorem map {f : α → β} (h : FailsOr result failures P) (hf : ∀ a, P a → Q (f a)) :
    FailsOr (f <$> result) failures Q := by
  have hbind := h.bind fun a ha => FailsOr.ok (hf a ha)
  rwa [List.append_nil] at hbind

end FailsOr

/-! ## Failures of a node -/

/-- The failure of a number that is above the most that is allowed. -/
def beyond (max count : Nat) (e : PatternError) : List PatternError :=
  if max < count then [e] else []

/-- What is wrong with the size of a node: first its level, and then the number of its children. -/
def sizeFailures (level count : Nat) : List PatternError :=
  beyond maxDepth level (.depthExceeded level maxDepth)
    ++ beyond maxBranches count (.tooManyBranches count maxBranches)

/-- The failure of a name that is not in its table. -/
def missing {β : Type} (kind : TableKind) (table : Table β) (name : String) : List PatternError :=
  match table.find? name with
  | some _ => []
  | none => [.unknownName name kind table.keys]

theorem beyond_eq_nil_iff {max count : Nat} {e : PatternError} :
    beyond max count e = [] ↔ count ≤ max := by
  unfold beyond
  split
  · next h => simp [Nat.not_le_of_lt h]
  · next h => simp [Nat.le_of_not_lt h]

namespace Registry

variable (library : Regex.Library) (r : Registry)

/-- What is wrong with a reference to an extractor: its name is not registered, or the settings are not
taken. -/
def extractorFailures (source : ExtractorConfig) : List PatternError :=
  match r.extractors.find? source.typeUrl with
  | none => [.unknownName source.typeUrl .extractor r.extractors.keys]
  | some factory => failuresOf (factory source.config)

/-- What is wrong with the reference of a node: a name is not registered, the settings of an extractor
are not taken, or an expression is too long or invalid. -/
def patternReference : PatternConfig → List PatternError
  | .predicate name => missing .predicate r.predicates name
  | .constant name => missing .constant r.constants name
  | .extractor source _ => r.extractorFailures source
  | .regex expression _ => failuresOf (compileExpression library expression)
  | .literal _ | .wildcard | .bind _ | .sequence _ _ | .mapping _ _ | .alternation _
  | .conjunction _ => []

/-- What is wrong with the reference of a node: a guard is not registered. -/
def guardReference : GuardConfig → List PatternError
  | .named name => missing .guard r.guards name
  | .compare .. | .all _ | .any _ | .not _ | .bound _ => []

/-- All that is wrong with the nodes of a pattern whose root is at some level. -/
def patternFailures (config : PatternConfig) (level : Nat) : List PatternError :=
  PatternConfig.branching.listing
    (fun node level => sizeFailures level node.children.length ++ r.patternReference library node)
    config level

/-- All that is wrong with the nodes of a guard whose root is at some level. -/
def guardFailures (config : GuardConfig) (level : Nat) : List PatternError :=
  GuardConfig.branching.listing
    (fun node level => sizeFailures level node.members.length ++ r.guardReference node)
    config level

variable {α : Type}

/-- The head that the configuration of a clause describes. -/
def head (config : ClauseConfig α) : Head :=
  ⟨config.capture.map (r.translate library), config.pattern.map (r.translate library)⟩

/-- All that is wrong with a clause: with its capture, with its test, with its head, which is looked at
as a whole, and with its guard. -/
def clauseFailures (config : ClauseConfig α) : List PatternError :=
  (config.capture.toList.flatMap fun c => r.patternFailures library c 1)
    ++ ((config.pattern.toList.flatMap fun c => r.patternFailures library c 1)
    ++ (failuresOf (r.head library config).pattern.compile
    ++ config.guard.toList.flatMap fun g => r.guardFailures g 1))

/-- All that is wrong with a match expression: with the number of its clauses, and with each of
them. -/
def matchFailures (config : MatchConfig α) : List PatternError :=
  beyond maxClauses config.clauses.length (.tooManyClauses config.clauses.length maxClauses)
    ++ config.clauses.flatMap (r.clauseFailures library)

/-! ## Nodes -/

variable {library} {r} {level count : Nat} {β : Type} {result : Except PatternError β}
  {failures : List PatternError}

/-- A node that may have any number of children is checked for its level and for their number. -/
theorem failsFirst_wide (h : FailsFirst result failures) :
    FailsFirst (checkLevel level >>= fun _ => checkWidth count >>= fun _ => result)
      (sizeFailures level count ++ failures) := by
  rw [sizeFailures, List.append_assoc]
  exact FailsFirst.bind (FailsFirst.ite _ ()) fun _ _ =>
    FailsFirst.bind (FailsFirst.ite _ ()) fun _ _ => h

/-- A node that cannot have too many children is checked for its level only. -/
theorem failsFirst_narrow (hcount : count ≤ maxBranches) (h : FailsFirst result failures) :
    FailsFirst (checkLevel level >>= fun _ => result) (sizeFailures level count ++ failures) := by
  rw [sizeFailures, beyond_eq_nil_iff.2 hcount, List.append_nil]
  exact FailsFirst.bind (FailsFirst.ite _ ()) fun _ _ => h

/-- A node without children is checked for its level only. -/
theorem failsFirst_leaf (h : FailsFirst result failures) :
    FailsFirst (checkLevel level >>= fun _ => result)
      (sizeFailures level 0 ++ (failures ++ [])) := by
  rw [List.append_nil]
  exact failsFirst_narrow (Nat.zero_le maxBranches) h

theorem failsFirst_resolve (kind : TableKind) (table : Table β) (name : String) :
    FailsFirst (resolve kind table name) (missing kind table name) := by
  unfold resolve missing
  cases table.find? name with
  | some a => exact .ok a
  | none => exact .error _

theorem failsFirst_loadExtractor (source : ExtractorConfig) :
    FailsFirst (r.loadExtractor source) (r.extractorFailures source) := by
  unfold loadExtractor extractorFailures resolve
  cases r.extractors.find? source.typeUrl with
  | none => exact .error _
  | some factory => exact .self (factory source.config)

/-! ## Patterns -/

section Lists

variable {below : PatternConfig → List PatternError}

theorem failsFirst_loadPatterns {configs : List PatternConfig}
    (h : ∀ c ∈ configs, FailsFirst (r.loadPatternAt library c level) (below c)) :
    FailsFirst (r.loadPatterns library configs level) (configs.flatMap below) := by
  induction configs with
  | nil =>
    rw [loadPatterns]
    exact .ok []
  | cons c rest ih =>
    rw [List.forall_mem_cons] at h
    rw [loadPatterns, List.flatMap_cons]
    exact h.1.bind fun p _ => (ih h.2).bind_ok (p :: ·)

theorem failsFirst_loadElements {elements : List (Option PatternConfig)}
    (h : ∀ c ∈ elements.reduceOption, FailsFirst (r.loadPatternAt library c level) (below c)) :
    FailsFirst (r.loadElements library elements level) (elements.reduceOption.flatMap below) := by
  induction elements with
  | nil =>
    rw [loadElements]
    exact .ok []
  | cons element rest ih =>
    cases element with
    | none =>
      rw [List.reduceOption_cons_of_none] at h ⊢
      rw [loadElements]
      exact (ih h).bind_ok (none :: ·)
    | some c =>
      rw [List.reduceOption_cons_of_some, List.forall_mem_cons] at h
      rw [loadElements, List.reduceOption_cons_of_some, List.flatMap_cons]
      exact h.1.bind fun p _ => (ih h.2).bind_ok (some p :: ·)

theorem failsFirst_loadFields {fields : List (String × PatternConfig)}
    (h : ∀ c ∈ fields.map (·.2), FailsFirst (r.loadPatternAt library c level) (below c)) :
    FailsFirst (r.loadFields library fields level) ((fields.map (·.2)).flatMap below) := by
  induction fields with
  | nil =>
    rw [loadFields]
    exact .ok []
  | cons field rest ih =>
    obtain ⟨key, c⟩ := field
    rw [List.map_cons, List.forall_mem_cons] at h
    rw [loadFields, List.map_cons, List.flatMap_cons]
    exact h.1.bind fun p _ => (ih h.2).bind_ok ((key, p) :: ·)

theorem failsFirst_loadInner {inner : Option PatternConfig}
    (h : ∀ c ∈ inner.toList, FailsFirst (r.loadPatternAt library c level) (below c)) :
    FailsFirst (r.loadInner library inner level) (inner.toList.flatMap below) := by
  cases inner with
  | none =>
    rw [loadInner]
    exact .ok none
  | some c =>
    rw [loadInner, Option.toList_some, List.flatMap_singleton]
    exact (h c (by simp)).bind_ok some

end Lists

/-- A node with at most one child fails for its size, for its reference, and then as the child does. -/
theorem failsFirst_inner {below : PatternConfig → List PatternError} {inner : Option PatternConfig}
    (h : ∀ c ∈ inner.toList, FailsFirst (r.loadPatternAt library c (level + 1)) (below c))
    (hreference : FailsFirst result failures) (build : β → Option Pattern → Pattern) :
    FailsFirst (checkLevel level >>= fun _ => result >>= fun b =>
        r.loadInner library inner (level + 1) >>= fun p => .ok (build b p))
      (sizeFailures level (inner.toList.map some).length
        ++ (failures ++ inner.toList.flatMap below)) := by
  -- the number of children is not checked, but one is never too many
  have hcount : (inner.toList.map some).length ≤ maxBranches := by
    rw [List.length_map]
    exact Nat.le_trans Option.length_toList_le (by decide)
  exact failsFirst_narrow hcount
    (hreference.bind fun b _ => (failsFirst_loadInner h).bind_ok (build b))

/-- A node fails for its size, then for its reference, and then as its parts do. -/
theorem failsFirst_patternNode {below : PatternConfig → List PatternError} (config : PatternConfig)
    (h : ∀ c ∈ config.parts, FailsFirst (r.loadPatternAt library c (level + 1)) (below c)) :
    FailsFirst (r.loadPatternAt library config level)
      (sizeFailures level config.children.length
        ++ (r.patternReference library config ++ config.parts.flatMap below)) := by
  cases config with
  | literal value | wildcard | bind name =>
    rw [loadPatternAt]
    exact failsFirst_leaf (.ok _)
  | predicate name =>
    rw [loadPatternAt]
    exact failsFirst_leaf ((failsFirst_resolve .predicate r.predicates name).bind_ok _)
  | constant name =>
    rw [loadPatternAt]
    exact failsFirst_leaf ((failsFirst_resolve .constant r.constants name).bind_ok _)
  | sequence elements rest =>
    rw [loadPatternAt]
    exact failsFirst_wide ((failsFirst_loadElements h).bind_ok fun ps => Pattern.sequence ps rest)
  | mapping fields rest =>
    rw [PatternConfig.parts_mapping] at h ⊢
    rw [loadPatternAt, PatternConfig.children, List.length_map]
    exact failsFirst_wide ((failsFirst_loadFields h).bind_ok fun ps => Pattern.mapping ps rest)
  | alternation branches =>
    rw [PatternConfig.parts_alternation] at h ⊢
    rw [loadPatternAt, PatternConfig.children, List.length_map]
    exact failsFirst_wide ((failsFirst_loadPatterns h).bind_ok Pattern.alternation)
  | conjunction members =>
    rw [PatternConfig.parts_conjunction] at h ⊢
    rw [loadPatternAt, PatternConfig.children, List.length_map]
    exact failsFirst_wide ((failsFirst_loadPatterns h).bind_ok Pattern.conjunction)
  | extractor source inner =>
    rw [PatternConfig.parts_extractor] at h ⊢
    rw [loadPatternAt]
    exact failsFirst_inner h (failsFirst_loadExtractor source) .extractor
  | regex expression inner =>
    rw [PatternConfig.parts_regex] at h ⊢
    rw [loadPatternAt]
    exact failsFirst_inner h (.self (compileExpression library expression)) .regex

theorem failsFirst_loadPatternAt (config : PatternConfig) (level : Nat) :
    FailsFirst (r.loadPatternAt library config level) (r.patternFailures library config level) := by
  induction config using PatternConfig.branching.induction generalizing level with
  | node config ih =>
    rw [patternFailures, Branching.listing_eq, List.append_assoc]
    exact failsFirst_patternNode config fun c hc => ih c hc (level + 1)

/-! ## Guards -/

theorem failsFirst_loadGuards {below : GuardConfig → List PatternError} {configs : List GuardConfig}
    (h : ∀ g ∈ configs, FailsFirst (r.loadGuardAt g level) (below g)) :
    FailsFirst (r.loadGuards configs level) (configs.flatMap below) := by
  induction configs with
  | nil =>
    rw [loadGuards]
    exact .ok []
  | cons g rest ih =>
    rw [List.forall_mem_cons] at h
    rw [loadGuards, List.flatMap_cons]
    exact h.1.bind fun guard _ => (ih h.2).bind_ok (guard :: ·)

/-- A node fails for its size, then for its reference, and then as its members do. -/
theorem failsFirst_guardNode {below : GuardConfig → List PatternError} (config : GuardConfig)
    (h : ∀ g ∈ config.members, FailsFirst (r.loadGuardAt g (level + 1)) (below g)) :
    FailsFirst (r.loadGuardAt config level)
      (sizeFailures level config.members.length
        ++ (r.guardReference config ++ config.members.flatMap below)) := by
  cases config with
  | compare binding op value | bound name =>
    rw [loadGuardAt]
    exact failsFirst_leaf (.ok _)
  | named name =>
    rw [loadGuardAt]
    exact failsFirst_leaf (failsFirst_resolve .guard r.guards name)
  | all members =>
    rw [loadGuardAt]
    exact failsFirst_wide ((failsFirst_loadGuards h).bind_ok Guard.all)
  | any members =>
    rw [loadGuardAt]
    exact failsFirst_wide ((failsFirst_loadGuards h).bind_ok Guard.any)
  | not inner =>
    have hinner := h inner (List.mem_singleton_self inner)
    have hcount : 1 ≤ maxBranches := by decide
    rw [loadGuardAt, GuardConfig.members, List.flatMap_singleton]
    exact failsFirst_narrow hcount (hinner.bind_ok Guard.not)

theorem failsFirst_loadGuardAt (config : GuardConfig) (level : Nat) :
    FailsFirst (r.loadGuardAt config level) (r.guardFailures config level) := by
  induction config using GuardConfig.branching.induction generalizing level with
  | node config ih =>
    rw [guardFailures, Branching.listing_eq, List.append_assoc]
    exact failsFirst_guardNode config fun g hg => ih g hg (level + 1)

/-! ## Clauses -/

theorem failsFirst_loadOptional {γ : Type} {load : γ → Except PatternError β}
    {below : γ → List PatternError} (h : ∀ c, FailsFirst (load c) (below c)) (config : Option γ) :
    FailsFirst (loadOptional load config) (config.toList.flatMap below) := by
  cases config with
  | none => exact .ok none
  | some c =>
    rw [Option.toList_some, List.flatMap_singleton]
    exact (h c).bind_ok some

/-- A part of a head that was loaded is the translation of its configuration. -/
theorem eq_translate_of_loadOptional {config : Option PatternConfig} {loaded : Option Pattern}
    (h : loadOptional (r.loadPattern library) config = .ok loaded) :
    loaded = config.map (r.translate library) := by
  cases config with
  | none => exact (Except.ok.inj h).symm
  | some c =>
    obtain ⟨p, hp, rfl⟩ := map_eq_ok.1 h
    rw [(eq_translate_of_loadPattern hp).1, Option.map_some]

/-- A clause fails as its capture, its test, its head or its guard does. -/
theorem failsFirst_loadClause (config : ClauseConfig α) :
    FailsFirst (r.loadClause library config) (r.clauseFailures library config) := by
  have hpattern (c : PatternConfig) :
      FailsFirst (r.loadPattern library c) (r.patternFailures library c 1) :=
    failsFirst_loadPatternAt c 1
  have hguard (g : GuardConfig) : FailsFirst (r.loadGuard g) (r.guardFailures g 1) :=
    failsFirst_loadGuardAt g 1
  rw [loadClause, clauseFailures]
  refine (failsFirst_loadOptional hpattern config.capture).bind fun capture hcapture => ?_
  refine (failsFirst_loadOptional hpattern config.pattern).bind fun test htest => ?_
  -- only a head whose parts were loaded is compiled, and these are the translations
  obtain rfl := eq_translate_of_loadOptional hcapture
  obtain rfl := eq_translate_of_loadOptional htest
  have hhead : FailsFirst (Clause.ofHead (r.head library config) config.body)
      (failuresOf (r.head library config).pattern.compile) := (FailsFirst.self _).bind_ok _
  refine hhead.bind fun clause _ => ?_
  exact (failsFirst_loadOptional hguard config.guard).bind_ok fun guard => { clause with guard }

theorem failsFirst_loadClauses (configs : List (ClauseConfig α)) :
    FailsFirst (r.loadClauses library configs) (configs.flatMap (r.clauseFailures library)) := by
  induction configs with
  | nil => exact .ok []
  | cons config rest ih =>
    rw [loadClauses, List.flatMap_cons]
    exact (failsFirst_loadClause config).bind fun clause _ => ih.bind_ok (clause :: ·)

/-- The clause is the one that the configuration describes. -/
structure Builds (library : Regex.Library) (r : Registry) (config : ClauseConfig α)
    (clause : Clause α) : Prop where
  loaded : r.loadClause library config = .ok clause
  pattern : clause.pattern.pattern = (r.head library config).pattern
  /-- There is a guard when one is configured, and it is the loaded one. -/
  guard : Option.Rel (fun g guard => r.loadGuard g = .ok guard) config.guard clause.guard
  body : clause.body = config.body

theorem rel_of_loadOptional {γ : Type} {load : γ → Except PatternError β} {config : Option γ}
    {loaded : Option β} (h : loadOptional load config = .ok loaded) :
    Option.Rel (fun c b => load c = .ok b) config loaded := by
  cases config with
  | none =>
    obtain rfl := Except.ok.inj h
    exact .none
  | some c =>
    obtain ⟨b, hb, rfl⟩ := map_eq_ok.1 h
    exact .some hb

theorem builds_of_loadClause {config : ClauseConfig α} {clause : Clause α}
    (h : r.loadClause library config = .ok clause) : r.Builds library config clause := by
  have hload := h
  simp only [loadClause, Clause.ofHead, bind_eq_ok] at h
  obtain ⟨capture, hcapture, test, htest, before, ⟨compiled, hcompiled, hbefore⟩, guard, hguard, h⟩ :=
    h
  obtain rfl := eq_translate_of_loadOptional hcapture
  obtain rfl := eq_translate_of_loadOptional htest
  obtain rfl := Except.ok.inj hbefore
  obtain rfl := Except.ok.inj h
  exact {
    loaded := hload
    pattern := Pattern.compile_eq_ok.1 hcompiled
    guard := rel_of_loadOptional hguard
    body := rfl }

/-! ## Match expressions -/

theorem failsFirst_loadMatch (config : MatchConfig α) :
    FailsFirst (r.loadMatch library config) (r.matchFailures library config) := by
  rw [loadMatch, matchFailures]
  exact FailsFirst.bind (FailsFirst.ite _ ()) fun _ _ =>
    (failsFirst_loadClauses config.clauses).bind_ok fun clauses => MatchExpr.mk clauses config.default

/-- A match expression loads when there are not too many clauses and each of them loads. -/
theorem exists_loadMatch_iff {config : MatchConfig α} :
    (∃ expr, r.loadMatch library config = .ok expr) ↔
      config.clauses.length ≤ maxClauses ∧
        ∀ c ∈ config.clauses, ∃ clause, r.loadClause library c = .ok clause := by
  rw [(failsFirst_loadMatch config).exists_ok_iff, matchFailures, List.append_eq_nil_iff,
    beyond_eq_nil_iff, List.flatMap_eq_nil_iff]
  refine and_congr_right fun _ => forall₂_congr fun c _ => ?_
  exact (failsFirst_loadClause c).exists_ok_iff.symm

/-- A match expression loads exactly when it has not too many clauses and each of them loads, and then
it has the clauses that are described, in their order, and the default. Otherwise the error is the
first failure of the configuration. -/
theorem loadMatch_firstFailure (library : Regex.Library) (r : Registry) (config : MatchConfig α) :
    ((∃ expr, r.loadMatch library config = .ok expr) ↔
      config.clauses.length ≤ maxClauses ∧
        ∀ c ∈ config.clauses, ∃ clause, r.loadClause library c = .ok clause) ∧
    (∀ expr, r.loadMatch library config = .ok expr →
      List.Forall₂ (r.Builds library) config.clauses expr.clauses ∧ expr.default = config.default) ∧
    ∀ e, r.loadMatch library config = .error e ↔ (r.matchFailures library config).head? = some e := by
  refine ⟨exists_loadMatch_iff, fun expr h => ?_, failsFirst_loadMatch config⟩
  simp only [loadMatch, bind_eq_ok] at h
  obtain ⟨-, -, clauses, hclauses, h⟩ := h
  obtain rfl := Except.ok.inj h
  exact ⟨(loadClauses_eq_ok hclauses).imp fun _ _ => builds_of_loadClause, rfl⟩

/-- A clause with a defect in each of its parts, after one that loads. -/
def manyDefects : MatchConfig Nat where
  clauses := [
    ⟨some (.bind "x"), some (.predicate "is_server_error"), some (.named "can_retry"), 0⟩,
    ⟨some (.sequence [some (.bind "x"), none, some (.bind "x")] none),
      some (.conjunction [.bind "x", .extractor ⟨"test.v1.OptionSome", .null⟩ (some
        (.predicate "absent")), .constant "absent"]),
      some (.any [.bound "x", .named "absent"]), 1⟩]
  default := some 2

theorem loadMatch_firstFailure_manyDefects :
    Domain.registry.loadMatch Regex.builtIn manyDefects
        = .error (.unknownName "absent" .predicate ["is_server_error"]) ∧
      (Domain.registry.matchFailures Regex.builtIn manyDefects).head?
        = some (.unknownName "absent" .predicate ["is_server_error"]) := by
  have hload : Domain.registry.loadMatch Regex.builtIn manyDefects
      = .error (.unknownName "absent" .predicate ["is_server_error"]) := by rfl
  exact ⟨hload, ((loadMatch_firstFailure Regex.builtIn Domain.registry manyDefects).2.2 _).1 hload⟩

end Registry

end Destructure
