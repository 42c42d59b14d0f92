import Destructure.Domain
import Destructure.Proofs.Pattern.Limits
import Destructure.Proofs.Registry.Loading
import Destructure.Regex.BuiltIn

set_option autoImplicit false

/-! # What a configuration describes

The pattern of a configuration can be written down without looking at its size
(`Registry.translate`), as long as everything that it refers to is there (`Registry.Resolves`). Loading
then builds that pattern, or complains about its size; it counts levels and children as the check of
the pattern does, so a pattern that was loaded is never rejected for its size
(`Registry.loadPattern_refines_translate`). -/

namespace Destructure.Registry

variable (library : Regex.Library) (r : Registry)

/-! ## Translation -/

/-- All the references of a configuration can be resolved: its predicates and constants are
registered, its extractors are registered and take their settings, and its expressions compile. -/
inductive Resolves : PatternConfig → Prop where
  | literal (value : Json) : Resolves (.literal value)
  | wildcard : Resolves .wildcard
  | bind (name : String) : Resolves (.bind name)
  | sequence {elements : List (Option PatternConfig)} (rest : Option String)
      (helements : ∀ config, some config ∈ elements → Resolves config) :
      Resolves (.sequence elements rest)
  | mapping {fields : List (String × PatternConfig)} (rest : Option String)
      (hfields : ∀ field ∈ fields, Resolves field.2) : Resolves (.mapping fields rest)
  | alternation {branches : List PatternConfig}
      (hbranches : ∀ config ∈ branches, Resolves config) : Resolves (.alternation branches)
  | conjunction {members : List PatternConfig}
      (hmembers : ∀ config ∈ members, Resolves config) : Resolves (.conjunction members)
  | predicate {name : String} {test : Predicate} (htest : r.predicates.find? name = some test) :
      Resolves (.predicate name)
  | extractor {source : ExtractorConfig} {factory : ExtractorFactory} {extractor : Extractor}
      {inner : Option PatternConfig}
      (hfactory : r.extractors.find? source.typeUrl = some factory)
      (hsettings : factory source.config = .ok extractor)
      (hinner : ∀ config, inner = some config → Resolves config) :
      Resolves (.extractor source inner)
  | regex {expression : String} {engine : Regex.Engine} {inner : Option PatternConfig}
      (hengine : compileExpression library expression = .ok engine)
      (hinner : ∀ config, inner = some config → Resolves config) :
      Resolves (.regex expression inner)
  | constant {name : String} {value : Value} (hvalue : r.constants.find? name = some value) :
      Resolves (.constant name)

mutual

/-- The pattern that a configuration describes, node for node. The node of a reference that leads
nowhere is a wildcard. -/
def translate : PatternConfig → Pattern
  | .literal value => .literal (Value.ofJson value)
  | .wildcard => .wildcard
  | .bind name => .binder name
  | .sequence elements rest => .sequence (translateElements elements) rest
  | .mapping fields rest => .mapping (translateFields fields) rest
  | .alternation branches => .alternation (translateAll branches)
  | .conjunction members => .conjunction (translateAll members)
  | .predicate name =>
    match r.predicates.find? name with
    | some test => .predicate test
    | none => .wildcard
  | .extractor source inner =>
    match r.loadExtractor source with
    | .ok extractor => .extractor extractor (translateInner inner)
    | .error _ => .wildcard
  | .regex expression inner =>
    match compileExpression library expression with
    | .ok engine => .regex engine (translateInner inner)
    | .error _ => .wildcard
  | .constant name =>
    match r.constants.find? name with
    | some value => .literal value
    | none => .wildcard

def translateAll : List PatternConfig → List Pattern
  | [] => []
  | config :: rest => translate config :: translateAll rest

def translateElements : List (Option PatternConfig) → List (Option Pattern)
  | [] => []
  | none :: rest => none :: translateElements rest
  | some config :: rest => some (translate config) :: translateElements rest

def translateFields : List (String × PatternConfig) → List (String × Pattern)
  | [] => []
  | (key, config) :: rest => (key, translate config) :: translateFields rest

def translateInner : Option PatternConfig → Option Pattern
  | none => none
  | some config => some (translate config)

end

/-! ## Results limited by the size -/

/-- The computation has the value as its result within the limits, and complains about the size
beyond them. -/
structure Limited {α : Type} (within : Prop) (result : Except PatternError α) (value : α) :
    Prop where
  eq_ok : within → result = .ok value
  eq_error : ¬ within → ∃ e, result = .error e ∧ e.isLimit

namespace Limited

variable {α β : Type} {P Q : Prop}

theorem of_iff {result : Except PatternError α} {value : α} (h : Limited P result value)
    (hPQ : Q ↔ P) : Limited Q result value where
  eq_ok hQ := h.eq_ok (hPQ.1 hQ)
  eq_error hQ := h.eq_error fun hP => hQ (hPQ.2 hP)

/-- Nothing limits what is there already. -/
theorem ok (value : α) : Limited True (.ok value) value where
  eq_ok _ := rfl
  eq_error h := absurd trivial h

/-- Two steps stay within the limits when each of them does. -/
theorem bind {first : Except PatternError α} {next : α → Except PatternError β} {a : α} {b : β}
    (hfirst : Limited P first a) (hnext : Limited Q (next a) b) :
    Limited (P ∧ Q) (first >>= next) b where
  eq_ok := by
    rintro ⟨hP, hQ⟩
    exact bind_eq_ok.2 ⟨a, hfirst.eq_ok hP, hnext.eq_ok hQ⟩
  eq_error := by
    intro h
    by_cases hP : P
    · obtain ⟨e, he, hlimit⟩ := hnext.eq_error fun hQ => h ⟨hP, hQ⟩
      exact ⟨e, bind_eq_error.2 (.inr ⟨a, hfirst.eq_ok hP, he⟩), hlimit⟩
    · obtain ⟨e, he, hlimit⟩ := hfirst.eq_error hP
      exact ⟨e, bind_eq_error.2 (.inl he), hlimit⟩

/-- What is built from a result is limited as the result is. -/
theorem bind_ok {first : Except PatternError α} {a : α} (h : Limited P first a) (build : α → β) :
    Limited P (first >>= fun a => .ok (build a)) (build a) :=
  (h.bind (ok (build a))).of_iff (iff_of_eq (and_true P)).symm

theorem checkLevel (level : Nat) : Limited (level ≤ maxDepth) (checkLevel level) () where
  eq_ok h := if_neg (Nat.not_lt_of_le h)
  eq_error h := ⟨_, if_pos (Nat.lt_of_not_le h), rfl⟩

theorem checkWidth (count : Nat) : Limited (count ≤ maxBranches) (checkWidth count) () where
  eq_ok h := if_neg (Nat.not_lt_of_le h)
  eq_error h := ⟨_, if_pos (Nat.lt_of_not_le h), rfl⟩

end Limited

/-! ## Lists of configurations -/

variable {library} {r}

/-- Loading at a level builds the translation, unless that does not keep within the limits there. -/
def Translated (library : Regex.Library) (r : Registry) (config : PatternConfig) (level : Nat) :
    Prop :=
  Limited ((r.translate library config).InBounds level) (r.loadPatternAt library config level)
    (r.translate library config)

section Lists

variable {level : Nat}

theorem limited_loadPatterns {configs : List PatternConfig}
    (h : ∀ config ∈ configs, r.Translated library config level) :
    Limited (∀ p ∈ r.translateAll library configs, p.InBounds level)
      (r.loadPatterns library configs level) (r.translateAll library configs) := by
  induction configs with
  | nil =>
    rw [loadPatterns, translateAll]
    exact (Limited.ok []).of_iff (by simp)
  | cons config rest ih =>
    rw [List.forall_mem_cons] at h
    rw [loadPatterns, translateAll, List.forall_mem_cons]
    exact h.1.bind ((ih h.2).bind_ok _)

theorem limited_loadElements {elements : List (Option PatternConfig)}
    (h : ∀ config, some config ∈ elements → r.Translated library config level) :
    Limited (∀ p ∈ (r.translateElements library elements).reduceOption, p.InBounds level)
      (r.loadElements library elements level) (r.translateElements library elements) := by
  induction elements with
  | nil =>
    rw [loadElements, translateElements]
    exact (Limited.ok []).of_iff (by simp)
  | cons element rest ih =>
    have hrest := ih fun config hmem => h config (List.mem_cons_of_mem element hmem)
    cases element with
    | none =>
      rw [loadElements, translateElements, List.reduceOption_cons_of_none]
      exact hrest.bind_ok _
    | some config =>
      rw [loadElements, translateElements, List.reduceOption_cons_of_some, List.forall_mem_cons]
      exact (h config List.mem_cons_self).bind (hrest.bind_ok _)

theorem limited_loadFields {fields : List (String × PatternConfig)}
    (h : ∀ field ∈ fields, r.Translated library field.2 level) :
    Limited (∀ p ∈ (r.translateFields library fields).map (·.2), p.InBounds level)
      (r.loadFields library fields level) (r.translateFields library fields) := by
  induction fields with
  | nil =>
    rw [loadFields, translateFields]
    exact (Limited.ok []).of_iff (by simp)
  | cons field rest ih =>
    obtain ⟨key, config⟩ := field
    rw [List.forall_mem_cons] at h
    rw [loadFields, translateFields, List.map_cons, List.forall_mem_cons]
    exact h.1.bind ((ih h.2).bind_ok _)

theorem limited_loadInner {inner : Option PatternConfig}
    (h : ∀ config, inner = some config → r.Translated library config level) :
    Limited (∀ p ∈ (r.translateInner library inner).toList, p.InBounds level)
      (r.loadInner library inner level) (r.translateInner library inner) := by
  cases inner with
  | none =>
    rw [loadInner, translateInner]
    exact (Limited.ok none).of_iff (by simp)
  | some config =>
    rw [loadInner, translateInner, Option.toList_some, List.forall_mem_singleton]
    exact (h config rfl).bind_ok _

end Lists

/-! ## Nodes -/

theorem translateAll_eq_map (configs : List PatternConfig) :
    r.translateAll library configs = configs.map (r.translate library) := by
  induction configs with
  | nil => rw [translateAll, List.map_nil]
  | cons config rest ih => rw [translateAll, ih, List.map_cons]

theorem translateElements_eq_map (elements : List (Option PatternConfig)) :
    r.translateElements library elements = elements.map (Option.map (r.translate library)) := by
  induction elements with
  | nil => rw [translateElements, List.map_nil]
  | cons element rest ih => cases element <;> rw [translateElements, ih] <;> rfl

theorem translateFields_eq_map (fields : List (String × PatternConfig)) :
    r.translateFields library fields
      = fields.map fun field => (field.1, r.translate library field.2) := by
  induction fields with
  | nil => rw [translateFields, List.map_nil]
  | cons field rest ih => rw [translateFields, ih, List.map_cons]

section Nodes

variable {α : Type} {level : Nat} {p : Pattern} {parts : Except PatternError α} {a : α}

/-- A node without children is limited by its level only. -/
theorem limited_leaf (hp : p.children = []) :
    Limited (p.InBounds level) (checkLevel level >>= fun _ => .ok p) p := by
  refine ((Limited.checkLevel level).bind_ok fun _ => p).of_iff ?_
  rw [Pattern.inBounds_iff, Pattern.parts, hp]
  simp

/-- A node with any number of children is limited by its level, by their number and by each of
them. -/
theorem limited_wide {count : Nat} (build : α → Pattern) (hcount : p.children.length = count)
    (hbuild : build a = p)
    (hparts : Limited (∀ q ∈ p.parts, q.InBounds (level + 1)) parts a) :
    Limited (p.InBounds level)
      (checkLevel level >>= fun _ => checkWidth count >>= fun _ =>
        parts >>= fun a => .ok (build a)) p := by
  obtain rfl := hbuild
  refine ((Limited.checkLevel level).bind
    ((Limited.checkWidth count).bind (hparts.bind_ok build))).of_iff ?_
  rw [Pattern.inBounds_iff, hcount]

/-- A node that takes patterns as they are is limited as they are, by its level and by their
number. -/
theorem limited_list {configs : List PatternConfig} (build : List Pattern → Pattern)
    (hbuild : ∀ ps, (build ps).children = ps.map some)
    (h : ∀ config ∈ configs, r.Translated library config (level + 1)) :
    Limited ((build (r.translateAll library configs)).InBounds level)
      (checkLevel level >>= fun _ => checkWidth configs.length >>= fun _ =>
        r.loadPatterns library configs (level + 1) >>= fun ps => .ok (build ps))
      (build (r.translateAll library configs)) := by
  have hcount : (build (r.translateAll library configs)).children.length = configs.length := by
    rw [hbuild, List.length_map, translateAll_eq_map, List.length_map]
  refine limited_wide build hcount rfl ?_
  rw [Pattern.parts, hbuild, Pattern.reduceOption_map_some]
  exact limited_loadPatterns h

/-- A node with at most one child is limited by its level and by that child. -/
theorem limited_inner {inner : Option PatternConfig} (build : Option Pattern → Pattern)
    (hbuild : ∀ p, (build p).children = p.toList.map some)
    (h : ∀ config, inner = some config → r.Translated library config (level + 1)) :
    Limited ((build (r.translateInner library inner)).InBounds level)
      (checkLevel level >>= fun _ => r.loadInner library inner (level + 1) >>= fun p => .ok (build p))
      (build (r.translateInner library inner)) := by
  have hnarrow : ((r.translateInner library inner).toList.map some).length ≤ maxBranches := by
    rw [List.length_map]
    exact Nat.le_trans Option.length_toList_le (by decide)
  refine ((Limited.checkLevel level).bind ((limited_loadInner h).bind_ok build)).of_iff ?_
  rw [Pattern.inBounds_iff, Pattern.parts, hbuild, Pattern.reduceOption_map_some]
  exact and_congr_right fun _ => and_iff_right hnarrow

end Nodes

/-! ## Configurations -/

/-- Loading is limited by the size of the translation, when all references resolve. -/
theorem Resolves.translated {config : PatternConfig} (h : r.Resolves library config) (level : Nat) :
    r.Translated library config level := by
  unfold Translated
  induction h generalizing level with
  | literal value =>
    rw [loadPatternAt, translate]
    exact limited_leaf rfl
  | wildcard =>
    rw [loadPatternAt, translate]
    exact limited_leaf rfl
  | bind name =>
    rw [loadPatternAt, translate]
    exact limited_leaf rfl
  | @sequence elements rest helements ih =>
    rw [loadPatternAt, translate]
    have hcount : (Pattern.sequence (r.translateElements library elements) rest).children.length
        = elements.length := by
      rw [Pattern.children, translateElements_eq_map, List.length_map]
    exact limited_wide (fun elements => .sequence elements rest) hcount rfl
      (limited_loadElements fun config hmem => ih config hmem (level + 1))
  | @mapping fields rest hfields ih =>
    rw [loadPatternAt, translate]
    have hcount : (Pattern.mapping (r.translateFields library fields) rest).children.length
        = fields.length := by
      rw [Pattern.children, List.length_map, translateFields_eq_map, List.length_map]
    refine limited_wide (fun fields => .mapping fields rest) hcount rfl ?_
    rw [Pattern.parts_mapping]
    exact limited_loadFields fun field hmem => ih field hmem (level + 1)
  | @alternation branches hbranches ih =>
    rw [loadPatternAt, translate]
    exact limited_list Pattern.alternation (fun _ => rfl)
      fun config hmem => ih config hmem (level + 1)
  | @conjunction members hmembers ih =>
    rw [loadPatternAt, translate]
    exact limited_list Pattern.conjunction (fun _ => rfl)
      fun config hmem => ih config hmem (level + 1)
  | @predicate name test htest =>
    rw [loadPatternAt, translate, resolve_eq_ok.2 htest, htest]
    exact limited_leaf rfl
  | @extractor source factory extractor inner hfactory hsettings hinner ih =>
    -- the loader and the translation build the extractor in the same way
    have hsource : r.loadExtractor source = .ok extractor := by
      rw [loadExtractor, resolve_eq_ok.2 hfactory]
      exact hsettings
    rw [loadPatternAt, translate, hsource]
    exact limited_inner (Pattern.extractor extractor) (fun _ => rfl)
      fun config heq => ih config heq (level + 1)
  | @regex expression engine inner hengine hinner ih =>
    rw [loadPatternAt, translate, hengine]
    exact limited_inner (Pattern.regex engine) (fun _ => rfl)
      fun config heq => ih config heq (level + 1)
  | @constant name value hvalue =>
    rw [loadPatternAt, translate, resolve_eq_ok.2 hvalue, hvalue]
    exact limited_leaf rfl

/-! ## Loaded configurations -/

mutual

/-- The references of a configuration that was loaded resolve. -/
theorem resolves_of_loadPatternAt (config : PatternConfig) {level : Nat} {p : Pattern}
    (h : loadPatternAt library r config level = .ok p) : r.Resolves library config := by
  cases config with
  | literal value => exact .literal value
  | wildcard => exact .wildcard
  | bind name => exact .bind name
  | sequence elements rest =>
    simp only [loadPatternAt, bind_eq_ok] at h
    obtain ⟨-, -, -, -, loaded, hloaded, -⟩ := h
    exact .sequence rest (resolves_of_loadElements elements hloaded)
  | mapping fields rest =>
    simp only [loadPatternAt, bind_eq_ok] at h
    obtain ⟨-, -, -, -, loaded, hloaded, -⟩ := h
    exact .mapping rest (resolves_of_loadFields fields hloaded)
  | alternation branches =>
    simp only [loadPatternAt, bind_eq_ok] at h
    obtain ⟨-, -, -, -, loaded, hloaded, -⟩ := h
    exact .alternation (resolves_of_loadPatterns branches hloaded)
  | conjunction members =>
    simp only [loadPatternAt, bind_eq_ok] at h
    obtain ⟨-, -, -, -, loaded, hloaded, -⟩ := h
    exact .conjunction (resolves_of_loadPatterns members hloaded)
  | predicate name =>
    simp only [loadPatternAt, bind_eq_ok, resolve_eq_ok] at h
    obtain ⟨-, -, test, htest, -⟩ := h
    exact .predicate htest
  | extractor source inner =>
    simp only [loadPatternAt, loadExtractor, bind_eq_ok, resolve_eq_ok] at h
    obtain ⟨-, -, extractor, ⟨factory, hfactory, hsettings⟩, loaded, hloaded, -⟩ := h
    exact .extractor hfactory hsettings (resolves_of_loadInner inner hloaded)
  | regex expression inner =>
    simp only [loadPatternAt, bind_eq_ok] at h
    obtain ⟨-, -, engine, hengine, loaded, hloaded, -⟩ := h
    exact .regex hengine (resolves_of_loadInner inner hloaded)
  | constant name =>
    simp only [loadPatternAt, bind_eq_ok, resolve_eq_ok] at h
    obtain ⟨-, -, value, hvalue, -⟩ := h
    exact .constant hvalue

theorem resolves_of_loadPatterns (configs : List PatternConfig) {level : Nat} {ps : List Pattern}
    (h : loadPatterns library r configs level = .ok ps) :
    ∀ config ∈ configs, r.Resolves library config := by
  cases configs with
  | nil => exact fun config hmem => by cases hmem
  | cons config rest =>
    simp only [loadPatterns, bind_eq_ok] at h
    obtain ⟨p, hp, others, hothers, -⟩ := h
    rw [List.forall_mem_cons]
    exact ⟨resolves_of_loadPatternAt config hp, resolves_of_loadPatterns rest hothers⟩

theorem resolves_of_loadElements (configs : List (Option PatternConfig)) {level : Nat}
    {elements : List (Option Pattern)} (h : loadElements library r configs level = .ok elements) :
    ∀ config, some config ∈ configs → r.Resolves library config := by
  match configs with
  | [] => exact fun config hmem => by cases hmem
  | none :: rest =>
    simp only [loadElements, bind_eq_ok] at h
    obtain ⟨others, hothers, -⟩ := h
    simpa using resolves_of_loadElements rest hothers
  | some config :: rest =>
    simp only [loadElements, bind_eq_ok] at h
    obtain ⟨p, hp, others, hothers, -⟩ := h
    have hfirst := resolves_of_loadPatternAt config hp
    have hrest := resolves_of_loadElements rest hothers
    intro config' hmem
    rcases List.mem_cons.1 hmem with heq | hmem
    · rw [Option.some.inj heq]
      exact hfirst
    · exact hrest config' hmem

theorem resolves_of_loadFields (configs : List (String × PatternConfig)) {level : Nat}
    {fields : List (String × Pattern)} (h : loadFields library r configs level = .ok fields) :
    ∀ field ∈ configs, r.Resolves library field.2 := by
  match configs with
  | [] => exact fun field hmem => by cases hmem
  | (key, config) :: rest =>
    simp only [loadFields, bind_eq_ok] at h
    obtain ⟨p, hp, others, hothers, -⟩ := h
    rw [List.forall_mem_cons]
    exact ⟨resolves_of_loadPatternAt config hp, resolves_of_loadFields rest hothers⟩

theorem resolves_of_loadInner (inner : Option PatternConfig) {level : Nat} {loaded : Option Pattern}
    (h : loadInner library r inner level = .ok loaded) :
    ∀ config, inner = some config → r.Resolves library config := by
  cases inner with
  | none => exact fun config heq => by cases heq
  | some config =>
    simp only [loadInner, bind_eq_ok] at h
    obtain ⟨p, hp, -⟩ := h
    have hfirst := resolves_of_loadPatternAt config hp
    rintro _ ⟨⟩
    exact hfirst

end

variable {config : PatternConfig}

theorem Resolves.limited (h : r.Resolves library config) :
    Limited (¬ (r.translate library config).Oversized) (r.loadPattern library config)
      (r.translate library config) :=
  (h.translated 1).of_iff Pattern.inBounds_one_iff.symm

/-- A loaded pattern is the translation, and keeps within the limits. -/
theorem eq_translate_of_loadPattern {p : Pattern} (h : r.loadPattern library config = .ok p) :
    p = r.translate library config ∧ ¬ p.Oversized := by
  have hlimited := (resolves_of_loadPatternAt config h).limited
  by_cases hsize : (r.translate library config).Oversized
  · obtain ⟨e, he, -⟩ := hlimited.eq_error (not_not.2 hsize)
    cases h.symm.trans he
  · obtain rfl := Except.ok.inj (h.symm.trans (hlimited.eq_ok hsize))
    exact ⟨rfl, hsize⟩

/-- Where all references resolve, loading fails exactly when the translation is too large, and then
says so, and otherwise builds the translation; so it takes every configuration whose translation
compiles. A loaded pattern is never rejected for its size. -/
theorem loadPattern_refines_translate (library : Regex.Library) (r : Registry)
    (config : PatternConfig) :
    (r.Resolves library config →
      ((∃ e, r.loadPattern library config = .error e) ↔ (r.translate library config).Oversized) ∧
      (∀ e, r.loadPattern library config = .error e → e.isLimit) ∧
      (¬ (r.translate library config).Oversized →
        r.loadPattern library config = .ok (r.translate library config)) ∧
      ((∃ c, (r.translate library config).compile = .ok c) →
        r.loadPattern library config = .ok (r.translate library config))) ∧
    ∀ p, r.loadPattern library config = .ok p → ∀ e, p.compile = .error e → ¬ e.isLimit := by
  constructor
  · intro hresolves
    have hlimited := hresolves.limited
    refine ⟨⟨?_, ?_⟩, ?_, hlimited.eq_ok, ?_⟩
    · rintro ⟨e, he⟩
      by_contra hsize
      cases he.symm.trans (hlimited.eq_ok hsize)
    · intro hsize
      obtain ⟨e, he, -⟩ := hlimited.eq_error (not_not.2 hsize)
      exact ⟨e, he⟩
    · intro e he
      have hsize : ¬ ¬ (r.translate library config).Oversized := by
        intro hsize
        cases he.symm.trans (hlimited.eq_ok hsize)
      obtain ⟨e', he', hlimit⟩ := hlimited.eq_error hsize
      obtain rfl := Except.error.inj (he.symm.trans he')
      exact hlimit
    · exact fun hcompile => hlimited.eq_ok (Pattern.not_oversized_of_compile hcompile)
  · intro p hp e he hlimit
    exact (eq_translate_of_loadPattern hp).2 (Pattern.oversized_of_compile hlimit he)

/-- A configuration with a reference of each kind. -/
def everyReference : PatternConfig :=
  .sequence [some (.bind "x"), none, some (.predicate "is_server_error"),
    some (.regex "a" (some .wildcard)),
    some (.extractor ⟨"test.v1.OptionSome", .null⟩ (some (.constant "LF")))] (some "rest")

theorem loadPattern_refines_translate_everyReference :
    Domain.registry.Resolves Regex.builtIn everyReference ∧
      Domain.registry.loadPattern Regex.builtIn everyReference
        = .ok (Domain.registry.translate Regex.builtIn everyReference) := by
  have hresolves : Domain.registry.Resolves Regex.builtIn everyReference := by
    refine .sequence (some "rest") ?_
    simp only [List.mem_cons, Option.some.injEq, List.not_mem_nil, or_false]
    rintro config (rfl | hhole | rfl | rfl | rfl)
    · exact .bind "x"
    · cases hhole
    · exact .predicate rfl
    · exact .regex rfl fun config heq => Option.some.inj heq ▸ .wildcard
    · exact .extractor rfl rfl fun config heq => Option.some.inj heq ▸ .constant rfl
  let c : Compiled :=
    ⟨Domain.registry.translate Regex.builtIn everyReference, ["x", "rest"], 3, rfl⟩
  have hcompile : (Domain.registry.translate Regex.builtIn everyReference).compile = .ok c :=
    Pattern.compile_eq_ok.2 rfl
  have hrefines :=
    (loadPattern_refines_translate Regex.builtIn Domain.registry everyReference).1 hresolves
  exact ⟨hresolves, hrefines.2.2.2 ⟨c, hcompile⟩⟩

end Destructure.Registry
