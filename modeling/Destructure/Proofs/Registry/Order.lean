import Destructure.Proofs.Pattern.Rejection
import Destructure.Proofs.Registry.Contents
import Destructure.Proofs.Registry.FirstFailure
import Destructure.Regex.BuiltIn

set_option autoImplicit false

/-! # The order of registration

Loading asks a registry for what stands under names, and for nothing else until a name is unknown. The
failure then carries the names of the table as the table goes through them, but the message sorts them.
So registries that agree on every name load the same, up to the order of names inside a failure
(`Registry.Agrees.sameAnswer_loadMatch`), and nothing tells in what order entries were registered
(`Registry.registrations_unordered`). -/

namespace Destructure

/-! ## Errors and results -/

/-- The errors are the same, except that the names to choose from may stand in another order. -/
inductive PatternError.Alike : PatternError → PatternError → Prop where
  | same (e : PatternError) : Alike e e
  | unknownName (name : String) (kind : TableKind) {available others : List String}
      (h : available.Perm others) :
      Alike (.unknownName name kind available) (.unknownName name kind others)

/-- The names to choose from are shown in one order only. -/
theorem PatternError.suggestion_perm (kind : TableKind) {available others : List String}
    (h : available.Perm others) : suggestion kind available = suggestion kind others := by
  rw [suggestion, suggestion, sortNames_eq_iff.2 h, h.isEmpty_eq]

theorem PatternError.Alike.message_eq {e e' : PatternError} (h : e.Alike e') :
    e.message = e'.message := by
  cases h with
  | same e => rfl
  | unknownName name kind h => rw [message_unknownName, message_unknownName, suggestion_perm kind h]

/-- The computations have the same result, or they fail with the same kind of error and the same
message. -/
inductive SameAnswer {α : Type} : Except PatternError α → Except PatternError α → Prop where
  | ok (a : α) : SameAnswer (.ok a) (.ok a)
  | error {e e' : PatternError} (halike : e.Alike e') (hmessage : e.message = e'.message) :
      SameAnswer (.error e) (.error e')

namespace SameAnswer

variable {α β : Type} {result result' : Except PatternError α}

theorem refl (result : Except PatternError α) : SameAnswer result result := by
  cases result with
  | ok a => exact .ok a
  | error e => exact .error (.same e) rfl

theorem bind {next next' : α → Except PatternError β} (h : SameAnswer result result')
    (hnext : ∀ a, SameAnswer (next a) (next' a)) :
    SameAnswer (result >>= next) (result' >>= next') := by
  cases h with
  | ok a => exact hnext a
  | error halike hmessage => exact .error halike hmessage

/-- Both go on in the same way. -/
theorem bind_same (h : SameAnswer result result') (next : α → Except PatternError β) :
    SameAnswer (result >>= next) (result' >>= next) := h.bind fun a => .refl (next a)

/-- Both come from the same result. -/
theorem same_bind (result : Except PatternError α) {next next' : α → Except PatternError β}
    (hnext : ∀ a, SameAnswer (next a) (next' a)) :
    SameAnswer (result >>= next) (result >>= next') := (refl result).bind hnext

end SameAnswer

namespace Registry

variable {library : Regex.Library} {r r' : Registry}

/-! ## Loading from registries that agree -/

theorem sameAnswer_resolve {α : Type} (kind : TableKind) {table other : Table α}
    (h : ∀ name, table.find? name = other.find? name) (name : String) :
    SameAnswer (resolve kind table name) (resolve kind other name) := by
  rw [resolve, resolve, h]
  cases other.find? name with
  | some a => exact .ok a
  | none =>
    have halike : (PatternError.unknownName name kind table.keys).Alike
        (.unknownName name kind other.keys) := .unknownName name kind (Table.keys_perm h)
    exact .error halike halike.message_eq

theorem Agrees.sameAnswer_loadExtractor (h : r.Agrees r') (source : ExtractorConfig) :
    SameAnswer (r.loadExtractor source) (r'.loadExtractor source) :=
  (sameAnswer_resolve .extractor (h .extractor) source.typeUrl).bind_same _

mutual

theorem Agrees.sameAnswer_loadPatternAt (h : r.Agrees r') (config : PatternConfig) (level : Nat) :
    SameAnswer (r.loadPatternAt library config level) (r'.loadPatternAt library config level) := by
  rw [loadPatternAt.eq_def, loadPatternAt.eq_def]
  -- levels, sizes and expressions are checked without a registry, so those steps are the same
  refine .same_bind (checkLevel level) fun _ => ?_
  cases config with
  | literal value => exact .refl _
  | wildcard => exact .refl _
  | bind name => exact .refl _
  | sequence elements rest =>
    exact .same_bind _ fun _ => (h.sameAnswer_loadElements elements (level + 1)).bind_same _
  | mapping fields rest =>
    exact .same_bind _ fun _ => (h.sameAnswer_loadFields fields (level + 1)).bind_same _
  | alternation branches =>
    exact .same_bind _ fun _ => (h.sameAnswer_loadPatterns branches (level + 1)).bind_same _
  | conjunction members =>
    exact .same_bind _ fun _ => (h.sameAnswer_loadPatterns members (level + 1)).bind_same _
  | predicate name => exact (sameAnswer_resolve .predicate (h .predicate) name).bind_same _
  | extractor source inner =>
    exact (h.sameAnswer_loadExtractor source).bind fun _ =>
      (h.sameAnswer_loadInner inner (level + 1)).bind_same _
  | regex expression inner =>
    exact .same_bind _ fun _ => (h.sameAnswer_loadInner inner (level + 1)).bind_same _
  | constant name => exact (sameAnswer_resolve .constant (h .constant) name).bind_same _

theorem Agrees.sameAnswer_loadPatterns (h : r.Agrees r') (configs : List PatternConfig)
    (level : Nat) :
    SameAnswer (r.loadPatterns library configs level) (r'.loadPatterns library configs level) := by
  cases configs with
  | nil => rw [loadPatterns, loadPatterns]; exact .refl _
  | cons config rest =>
    rw [loadPatterns, loadPatterns]
    exact (h.sameAnswer_loadPatternAt config level).bind fun _ =>
      (h.sameAnswer_loadPatterns rest level).bind_same _

theorem Agrees.sameAnswer_loadElements (h : r.Agrees r') (configs : List (Option PatternConfig))
    (level : Nat) :
    SameAnswer (r.loadElements library configs level) (r'.loadElements library configs level) := by
  match configs with
  | [] => rw [loadElements, loadElements]; exact .refl _
  | none :: rest =>
    rw [loadElements, loadElements]
    exact (h.sameAnswer_loadElements rest level).bind_same _
  | some config :: rest =>
    rw [loadElements, loadElements]
    exact (h.sameAnswer_loadPatternAt config level).bind fun _ =>
      (h.sameAnswer_loadElements rest level).bind_same _

theorem Agrees.sameAnswer_loadFields (h : r.Agrees r') (configs : List (String × PatternConfig))
    (level : Nat) :
    SameAnswer (r.loadFields library configs level) (r'.loadFields library configs level) := by
  match configs with
  | [] => rw [loadFields, loadFields]; exact .refl _
  | (key, config) :: rest =>
    rw [loadFields, loadFields]
    exact (h.sameAnswer_loadPatternAt config level).bind fun _ =>
      (h.sameAnswer_loadFields rest level).bind_same _

theorem Agrees.sameAnswer_loadInner (h : r.Agrees r') (config : Option PatternConfig)
    (level : Nat) :
    SameAnswer (r.loadInner library config level) (r'.loadInner library config level) := by
  cases config with
  | none => rw [loadInner, loadInner]; exact .refl _
  | some config =>
    rw [loadInner, loadInner]
    exact (h.sameAnswer_loadPatternAt config level).bind_same _

end

mutual

theorem Agrees.sameAnswer_loadGuardAt (h : r.Agrees r') (config : GuardConfig) (level : Nat) :
    SameAnswer (r.loadGuardAt config level) (r'.loadGuardAt config level) := by
  rw [loadGuardAt.eq_def, loadGuardAt.eq_def]
  refine .same_bind (checkLevel level) fun _ => ?_
  cases config with
  | compare binding op value => exact .refl _
  | bound name => exact .refl _
  | all members =>
    exact .same_bind _ fun _ => (h.sameAnswer_loadGuards members (level + 1)).bind_same _
  | any members =>
    exact .same_bind _ fun _ => (h.sameAnswer_loadGuards members (level + 1)).bind_same _
  | not inner => exact (h.sameAnswer_loadGuardAt inner (level + 1)).bind_same _
  | named name => exact sameAnswer_resolve .guard (h .guard) name

theorem Agrees.sameAnswer_loadGuards (h : r.Agrees r') (configs : List GuardConfig)
    (level : Nat) : SameAnswer (r.loadGuards configs level) (r'.loadGuards configs level) := by
  cases configs with
  | nil => rw [loadGuards, loadGuards]; exact .refl _
  | cons config rest =>
    rw [loadGuards, loadGuards]
    exact (h.sameAnswer_loadGuardAt config level).bind fun _ =>
      (h.sameAnswer_loadGuards rest level).bind_same _

end

variable {α : Type}

theorem sameAnswer_loadOptional {β γ : Type} {load load' : β → Except PatternError γ}
    (h : ∀ config, SameAnswer (load config) (load' config)) (config : Option β) :
    SameAnswer (loadOptional load config) (loadOptional load' config) := by
  cases config with
  | none => exact .ok none
  | some config => exact (h config).bind_same _

theorem Agrees.sameAnswer_loadClause (h : r.Agrees r') (config : ClauseConfig α) :
    SameAnswer (r.loadClause library config) (r'.loadClause library config) := by
  have hpattern (c : PatternConfig) :
      SameAnswer (r.loadPattern library c) (r'.loadPattern library c) :=
    h.sameAnswer_loadPatternAt c 1
  have hguard (g : GuardConfig) : SameAnswer (r.loadGuard g) (r'.loadGuard g) :=
    h.sameAnswer_loadGuardAt g 1
  exact (sameAnswer_loadOptional hpattern config.capture).bind fun _ =>
    (sameAnswer_loadOptional hpattern config.pattern).bind fun _ =>
    .same_bind _ fun _ => (sameAnswer_loadOptional hguard config.guard).bind_same _

theorem Agrees.sameAnswer_loadClauses (h : r.Agrees r') (configs : List (ClauseConfig α)) :
    SameAnswer (r.loadClauses library configs) (r'.loadClauses library configs) := by
  induction configs with
  | nil => exact .ok []
  | cons config rest ih =>
    exact (h.sameAnswer_loadClause config).bind fun _ => ih.bind_same _

/-- A configuration loads the same from registries that agree. -/
theorem Agrees.sameAnswer_loadMatch (h : r.Agrees r') (config : MatchConfig α) :
    SameAnswer (r.loadMatch library config) (r'.loadMatch library config) :=
  .same_bind _ fun _ => (h.sameAnswer_loadClauses config.clauses).bind_same _

/-! ## Unknown names -/

/-- The error is that of a factory, for some settings. -/
def FactoryFails (r : Registry) (e : PatternError) : Prop :=
  ∃ typeUrl factory settings, r.extractors.find? typeUrl = some factory ∧ factory settings = .error e

/-- Where an unknown name can come from: a table that does not hold it, or a factory. -/
inductive Reports (r : Registry) : PatternError → Prop where
  | unknown {name : String} (kind : TableKind) (h : (r.table kind).find? name = none) :
      Reports r (.unknownName name kind (r.table kind).keys)
  | factory {e : PatternError} (h : r.FactoryFails e) : Reports r e
  | other {e : PatternError} (h : ∀ name kind available, e ≠ .unknownName name kind available) :
      Reports r e

variable {e : PatternError}

theorem reports_of_beyond {max count : Nat} {failure : PatternError}
    (h : ∀ name kind available, failure ≠ .unknownName name kind available)
    (he : e ∈ beyond max count failure) : r.Reports e := by
  unfold beyond at he
  split at he
  · obtain rfl := List.mem_singleton.1 he
    exact .other h
  · cases he

theorem reports_of_sizeFailures {level count : Nat} (he : e ∈ sizeFailures level count) :
    r.Reports e := by
  rcases List.mem_append.1 he with he | he
  · exact reports_of_beyond (by simp) he
  · exact reports_of_beyond (by simp) he

theorem reports_of_missing (kind : TableKind) {name : String}
    (he : e ∈ missing kind (r.table kind) name) : r.Reports e := by
  unfold missing at he
  split at he
  · cases he
  · next hfind =>
    obtain rfl := List.mem_singleton.1 he
    exact .unknown kind hfind

theorem mem_failuresOf {β : Type} {result : Except PatternError β} :
    e ∈ failuresOf result ↔ result = .error e := by
  cases result with
  | ok b => simp [failuresOf]
  | error e' => simp [failuresOf, eq_comm]

theorem reports_of_extractorFailures {source : ExtractorConfig}
    (he : e ∈ r.extractorFailures source) : r.Reports e := by
  unfold extractorFailures at he
  split at he
  · next hfind =>
    obtain rfl := List.mem_singleton.1 he
    exact .unknown .extractor hfind
  · next factory hfind => exact .factory ⟨_, factory, _, hfind, mem_failuresOf.1 he⟩

/-- An expression that does not compile is not looked up anywhere. -/
theorem compileExpression_ne_unknownName (library : Regex.Library) (source name : String)
    (kind : TableKind) (available : List String) :
    compileExpression library source ≠ .error (.unknownName name kind available) := by
  unfold compileExpression
  split
  · nofun
  · split <;> nofun

theorem reports_of_patternReference {config : PatternConfig}
    (he : e ∈ r.patternReference library config) : r.Reports e := by
  cases config with
  | predicate name => exact reports_of_missing .predicate he
  | constant name => exact reports_of_missing .constant he
  | extractor source inner => exact reports_of_extractorFailures he
  | regex expression inner =>
    refine .other fun name kind available hname => ?_
    subst hname
    exact compileExpression_ne_unknownName _ _ _ _ _ (mem_failuresOf.1 he)
  | _ => cases he

theorem reports_of_guardReference {config : GuardConfig} (he : e ∈ r.guardReference config) :
    r.Reports e := by
  cases config with
  | named name => exact reports_of_missing .guard he
  | _ => cases he

theorem reports_of_patternFailures {config : PatternConfig} {level : Nat}
    (he : e ∈ r.patternFailures library config level) : r.Reports e := by
  obtain ⟨node, -, he⟩ := List.mem_flatMap.1 he
  rcases List.mem_append.1 he with he | he
  · exact reports_of_sizeFailures he
  · exact reports_of_patternReference he

theorem reports_of_guardFailures {config : GuardConfig} {level : Nat}
    (he : e ∈ r.guardFailures config level) : r.Reports e := by
  obtain ⟨node, -, he⟩ := List.mem_flatMap.1 he
  rcases List.mem_append.1 he with he | he
  · exact reports_of_sizeFailures he
  · exact reports_of_guardReference he

/-- A pattern is compiled without looking up anything. -/
theorem compile_ne_unknownName (p : Pattern) (name : String) (kind : TableKind)
    (available : List String) : p.compile ≠ .error (.unknownName name kind available) := by
  intro h
  -- a rejection is that of some node, with a fault of the node or for its depth
  have hlevel : 1 ≤ maxDepth + 1 := Nat.le_add_left 1 maxDepth
  obtain ⟨_, _, _, hfault | ⟨hdepth, -⟩⟩ :=
    Pattern.exists_site_of_analyze hlevel (Pattern.compile_eq_error.1 h)
  · cases hfault
  · cases hdepth

theorem reports_of_clauseFailures {config : ClauseConfig α}
    (he : e ∈ r.clauseFailures library config) : r.Reports e := by
  simp only [clauseFailures, List.mem_append, List.mem_flatMap] at he
  rcases he with ⟨_, -, he⟩ | ⟨_, -, he⟩ | he | ⟨_, -, he⟩
  · exact reports_of_patternFailures he
  · exact reports_of_patternFailures he
  · refine .other fun name kind available hname => ?_
    subst hname
    exact compile_ne_unknownName _ _ _ _ (mem_failuresOf.1 he)
  · exact reports_of_guardFailures he

theorem reports_of_loadMatch {config : MatchConfig α} (h : r.loadMatch library config = .error e) :
    r.Reports e := by
  have he : e ∈ r.matchFailures library config :=
    List.mem_of_mem_head? ((failsFirst_loadMatch config e).1 h)
  rcases List.mem_append.1 he with he | he
  · exact reports_of_beyond (by simp) he
  · obtain ⟨_, -, he⟩ := List.mem_flatMap.1 he
    exact reports_of_clauseFailures he

/-- The message about an unknown name, with the names of its table as they are listed. -/
theorem message_of_unknown (name : String) (kind : TableKind) :
    (PatternError.unknownName name kind (r.table kind).keys).message
      = "unknown " ++ kind.name ++ " \"" ++ name ++ "\"" ++
        if (r.table kind).names = [] then " — no " ++ kind.name ++ " entries are registered"
        else " — registered: " ++ ", ".intercalate (r.table kind).names := by
  have hempty : (r.table kind).keys.isEmpty ↔ (r.table kind).names = [] := by
    rw [← List.isEmpty_iff, Table.names_eq, (sortNames_perm _).isEmpty_eq]
  rw [PatternError.message_unknownName, PatternError.suggestion, Table.names_eq]
  rw [Table.names_eq] at hempty
  simp only [hempty]

/-! ## Registrations -/

/-- Nothing that is asked of the registries tells them apart: they list the same names, and everything
loads the same. -/
structure Indistinguishable (r r' : Registry) : Prop where
  names : ∀ kind, (r.table kind).names = (r'.table kind).names
  loadPattern : ∀ library config,
    SameAnswer (r.loadPattern library config) (r'.loadPattern library config)
  loadGuard : ∀ config, SameAnswer (r.loadGuard config) (r'.loadGuard config)
  loadMatch : ∀ library {α : Type} (config : MatchConfig α),
    SameAnswer (r.loadMatch library config) (r'.loadMatch library config)

theorem Agrees.indistinguishable (h : r.Agrees r') : r.Indistinguishable r' where
  names := h.names_eq
  loadPattern _ config := h.sameAnswer_loadPatternAt config 1
  loadGuard config := h.sameAnswer_loadGuardAt config 1
  loadMatch _ _ config := h.sameAnswer_loadMatch config

/-- The order of registration cannot be told, however the tables go through their entries.

* A registry holds the last registration of each name.
* The names of each table are listed in strictly ascending order, and they are the registered ones.
* Registrations of distinct names in another order make an indistinguishable registry, whatever library
  compiles expressions.
* Of repeated names only the last registrations count.
* The message about an unknown name lists the names of its table as they are listed otherwise, unless a
  factory made it. -/
theorem registrations_unordered :
    (∀ registrations, (ofList registrations).Holds registrations) ∧
    (∀ registrations (r : Registry), r.Holds registrations → ∀ kind,
      (r.table kind).names.Pairwise (· < ·) ∧
      ∀ name, name ∈ (r.table kind).names ↔
        name ∈ Entries.keys (entriesOf kind registrations)) ∧
    (∀ registrations others (r r' : Registry), registrations.Perm others →
      (∀ kind, (Entries.keys (entriesOf kind registrations)).Nodup) →
      r.Holds registrations → r'.Holds others → r.Indistinguishable r') ∧
    (∀ registrations others (r r' : Registry),
      (∀ kind name, Entries.last? name (entriesOf kind registrations)
        = Entries.last? name (entriesOf kind others)) →
      r.Holds registrations → r'.Holds others → r.Indistinguishable r') ∧
    ∀ (library : Regex.Library) (r : Registry) {α : Type} (config : MatchConfig α) name kind
      available, r.loadMatch library config = .error (.unknownName name kind available) →
      r.FactoryFails (.unknownName name kind available) ∨
        name ∉ (r.table kind).names ∧
        (PatternError.unknownName name kind available).message
          = "unknown " ++ kind.name ++ " \"" ++ name ++ "\"" ++
            if (r.table kind).names = [] then " — no " ++ kind.name ++ " entries are registered"
            else " — registered: " ++ ", ".intercalate (r.table kind).names := by
  refine ⟨holds_ofList, fun _ r h kind => ⟨(r.table kind).names_ascending, fun _ => h.mem_names_iff⟩,
    ?_, ?_, ?_⟩
  · intro registrations others r r' hperm hdistinct h h'
    exact (h.agrees h' (last?_entriesOf_perm hperm hdistinct)).indistinguishable
  · intro registrations others r r' hlast h h'
    exact (h.agrees h' hlast).indistinguishable
  · intro library r α config name kind available hload
    cases reports_of_loadMatch hload with
    | factory h => exact .inl h
    | other h => exact absurd rfl (h name kind available)
    | unknown _ h =>
      refine .inr ⟨?_, message_of_unknown name kind⟩
      rw [Table.mem_names_iff, h]
      exact Bool.false_ne_true

/-- Two predicates, one of which has the name of a guard. -/
def sharedName : List Registration :=
  [.predicate "retry" Domain.isServerError, .predicate "fail" Domain.isServerError,
    .guard "retry" Domain.canRetry]

/-- A predicate that is registered again later on. -/
def replaced : Registration :=
  .predicate "fail" { Domain.isServerError with name := "never" }

/-- Looks for a predicate under the name of no predicate. -/
def unknownPredicate : MatchConfig Nat where
  clauses := [⟨none, some (.predicate "absent"), some (.named "retry"), 0⟩]
  default := none

theorem registrations_unordered_sharedName :
    ((ofList sharedName).table .predicate).keys = ["fail", "retry"] ∧
    ((ofList sharedName.reverse).table .predicate).keys = ["retry", "fail"] ∧
    (ofList sharedName).Indistinguishable (ofList sharedName.reverse) ∧
    (ofList (replaced :: sharedName)).Indistinguishable (ofList sharedName) ∧
    (ofList sharedName).loadMatch Regex.builtIn unknownPredicate
      = .error (.unknownName "absent" .predicate ["fail", "retry"]) ∧
    "absent" ∉ ((ofList sharedName).table .predicate).names := by
  obtain ⟨hholds, -, hperm, hlast, hunknown⟩ := registrations_unordered
  refine ⟨rfl, rfl, ?_, ?_, rfl, ?_⟩
  · refine hperm _ _ _ _ sharedName.reverse_perm.symm (fun kind => ?_) (hholds _) (hholds _)
    cases kind <;> decide
  · refine hlast _ _ _ _ (fun kind name => ?_) (hholds _) (hholds _)
    cases kind with
    | predicate => exact Entries.last?_cons_of_mem (by decide) name
    | _ => rfl
  · have hload : (ofList sharedName).loadMatch Regex.builtIn unknownPredicate
        = .error (.unknownName "absent" .predicate ["fail", "retry"]) := rfl
    rcases hunknown _ _ _ _ _ _ hload with ⟨_, _, _, hfind, -⟩ | ⟨hname, -⟩
    · cases hfind
    · exact hname

end Registry

end Destructure
