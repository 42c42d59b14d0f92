import Destructure.Matching.Basic
import Destructure.Proofs.Pattern.Analysis

set_option autoImplicit false

/-! # Matching without an accumulator

A *reading* says what a pattern makes of a subject on its own: nothing, a failure, or the list of
pairs that it binds. `Pattern.read` puts readings together: parts that match together add their
lists up from left to right and stop at the first one that is not there, and an alternation takes
the first one that is. Nothing is shared between nodes, so nothing has to be undone.

`Pattern.read_induction` is the induction that readings go by: what putting readings together keeps
holds of every reading. From it follow that a reading does not depend on where the pattern stands
(`Pattern.read_alike`) and which failures there are (`Pattern.read_fault`). -/

namespace Destructure

/-- What a pattern makes of a subject: nothing, or the pairs that it binds, in order. -/
abbrev Reading := Run MatchError (Option (List (String × Value)))

namespace Reading

/-- The subject does not match. -/
def rejected : Reading := pure none

/-- The subject matches and binds these pairs. -/
def bound (pairs : List (String × Value)) : Reading := pure (some pairs)

/-- The subject matches if the condition holds, and binds nothing. -/
def ofBool (condition : Bool) : Reading := if condition then bound [] else rejected

/-- Both parts match: the pairs of the first one come first, and the second one is not tried unless
the first one matches. -/
def both (first second : Reading) : Reading := do
  match ← first with
  | none => rejected
  | some pairs => (Option.map (pairs ++ ·)) <$> second

/-- The first branch if it matches, otherwise the second one. -/
def either (first second : Reading) : Reading := do
  match ← first with
  | none => second
  | some pairs => bound pairs

end Reading

namespace Pattern

/-- What is bound to a rest, if there is a name for it. -/
def leftover (rest : Option String) (value : Value) : List (String × Value) :=
  rest.toList.map fun name => (name, value)

mutual

/-- What the pattern at `site` makes of a subject. -/
def read (pattern : Pattern) (scope : Scope) (site : Site) (subject : Value) : Reading :=
  match pattern with
  | .literal expected => .ofBool (subject.equals expected)
  | .wildcard => .bound []
  | .binder name => .bound [(name, subject)]
  | .sequence elements rest =>
    match subject with
    | .sequence items =>
      if lengthFits elements.length rest items.length then
        (readElements elements scope site 0 items).both
          (.bound (leftover rest (.sequence (items.drop elements.length))))
      else .rejected
    | _ => .rejected
  | .mapping fields rest =>
    match subject with
    | .mapping entries =>
      (readFields fields scope site 0 entries).both
        (.bound (leftover rest (.mapping (otherEntries fields entries))))
    | _ => .rejected
  | .alternation branches => readBranches branches scope site 0 subject
  | .conjunction members => readMembers members scope site 0 subject
  | .predicate test => do
    let verdict ← Run.called ⟨site, .test test subject scope⟩
      ((test.call subject scope).mapError (MatchError.predicateEvaluation test.name))
    Reading.ofBool verdict.isTruthy
  | .extractor source inner => do
    let extraction ← Run.called ⟨site, .extract source subject⟩ (.ok (source.extract subject))
    readInner inner scope site source.name extraction
  | .regex engine inner => do
    let extraction ← Run.called ⟨site, .search engine subject⟩ (.ok (engine.extract subject))
    readInner inner scope site engine.source extraction

/-- What elements make of items, position by position, from child `index` on. -/
def readElements (elements : List (Option Pattern)) (scope : Scope) (site : Site) (index : Nat)
    (items : List Value) : Reading :=
  match elements, items with
  | none :: elements, _ :: items => readElements elements scope site (index + 1) items
  | some p :: elements, item :: items =>
    (p.read scope (site ++ [index]) item).both (readElements elements scope site (index + 1) items)
  | _, _ => .bound []

/-- What fields make of the entries of their keys, from child `index` on. -/
def readFields (fields : List (String × Pattern)) (scope : Scope) (site : Site) (index : Nat)
    (entries : List (String × Value)) : Reading :=
  match fields with
  | [] => .bound []
  | (key, p) :: rest =>
    match Entries.find? key entries with
    | none => .rejected
    | some value =>
      (p.read scope (site ++ [index]) value).both (readFields rest scope site (index + 1) entries)

/-- What the first of the branches from child `index` on that matches makes of the subject. -/
def readBranches (branches : List Pattern) (scope : Scope) (site : Site) (index : Nat)
    (subject : Value) : Reading :=
  match branches with
  | [] => .rejected
  | p :: rest =>
    (p.read scope (site ++ [index]) subject).either
      (readBranches rest scope site (index + 1) subject)

/-- What the members from child `index` on make of the same subject. -/
def readMembers (members : List Pattern) (scope : Scope) (site : Site) (index : Nat)
    (subject : Value) : Reading :=
  match members with
  | [] => .bound []
  | p :: rest =>
    (p.read scope (site ++ [index]) subject).both (readMembers rest scope site (index + 1) subject)

/-- What the inner pattern makes of an extraction. -/
def readInner (inner : Option Pattern) (scope : Scope) (site : Site) (name : String)
    (extraction : Extraction) : Reading :=
  if extraction.matched then
    match inner with
    | none => .bound []
    | some p =>
      match extraction.target p.shape with
      | .ok target => p.read scope (site ++ [0]) target
      | .error fault => Run.fail (.extractorContract name fault)
  else .rejected

end

end Pattern

@[simp] theorem Pattern.readElements_nil (scope : Scope) (site : Site) (index : Nat)
    (items : List Value) : Pattern.readElements [] scope site index items = .bound [] := by
  simp [Pattern.readElements]

/-! ## Readings in parts -/

namespace Reading

@[simp] theorem result_rejected : rejected.result = .ok none := rfl

@[simp] theorem result_bound (pairs : List (String × Value)) :
    (bound pairs).result = .ok (some pairs) := rfl

@[simp] theorem calls_rejected : rejected.calls = [] := rfl

@[simp] theorem calls_bound (pairs : List (String × Value)) : (bound pairs).calls = [] := rfl

/-- Both parts match when each of them does, and bind the pairs of both. -/
theorem result_both_eq_some {first second : Reading} {pairs : List (String × Value)} :
    (first.both second).result = .ok (some pairs) ↔ ∃ a b, first.result = .ok (some a) ∧
      second.result = .ok (some b) ∧ pairs = a ++ b := by
  rw [both, Run.result_bind, bind_eq_ok]
  constructor
  · rintro ⟨a, ha, hnext⟩
    cases a with
    | none => exact absurd hnext (by simp)
    | some a =>
      rw [Run.result_map, map_eq_ok] at hnext
      obtain ⟨b, hb, hpairs⟩ := hnext
      obtain ⟨b, rfl, rfl⟩ := Option.map_eq_some_iff.1 hpairs
      exact ⟨a, b, ha, hb, rfl⟩
  · rintro ⟨a, b, ha, hb, rfl⟩
    refine ⟨some a, ha, ?_⟩
    rw [Run.result_map, hb]
    rfl

/-- One of two branches matches when the first one does, or else the second one. -/
theorem result_either_eq_some {first second : Reading} {pairs : List (String × Value)} :
    (first.either second).result = .ok (some pairs) ↔ first.result = .ok (some pairs) ∨
      first.result = .ok none ∧ second.result = .ok (some pairs) := by
  rw [either, Run.result_bind, bind_eq_ok]
  constructor
  · rintro ⟨a, ha, hnext⟩
    cases a with
    | none => exact .inr ⟨ha, hnext⟩
    | some a =>
      obtain rfl : a = pairs := by simpa using hnext
      exact .inl ha
  · rintro (hfirst | ⟨hfirst, hsecond⟩)
    · exact ⟨_, hfirst, rfl⟩
    · exact ⟨_, hfirst, hsecond⟩

end Reading

/-! ## Induction over readings -/

/-- The failures that patterns have of themselves: of an extractor that breaks its contract and of a
predicate. -/
def MatchError.isPatternFault : MatchError → Bool
  | .extractorContract .. => true
  | .predicateEvaluation .. => true
  | _ => false

namespace Reading

/-- A relation between a reading at one site and a reading at another that all ways of putting
readings together keep. -/
structure Closed (Q : Site → Site → Reading → Reading → Prop) : Prop where
  rejected : ∀ s t, Q s t rejected rejected
  bound : ∀ s t pairs, Q s t (bound pairs) (bound pairs)
  fault : ∀ s t (e : MatchError), e.isPatternFault → Q s t (Run.fail e) (Run.fail e)
  child : ∀ {s t r r'} (i : Nat), Q (s ++ [i]) (t ++ [i]) r r' → Q s t r r'
  both : ∀ {s t r r' rest rest'}, Q s t r r' → Q s t rest rest' →
    Q s t (r.both rest) (r'.both rest')
  either : ∀ {s t r r' rest rest'}, Q s t r r' → Q s t rest rest' →
    Q s t (r.either rest) (r'.either rest')
  call : ∀ {s t} {α : Type} {result : Except MatchError α} {next next' : α → Reading}
      (event : Event),
    (∀ e, result = .error e → e.isPatternFault) → (∀ a, Q s t (next a) (next' a)) →
      Q s t (Run.called ⟨s, event⟩ result >>= next) (Run.called ⟨t, event⟩ result >>= next')

end Reading

namespace Pattern

theorem test_fault {test : Predicate} {subject : Value} {scope : Scope} {e : MatchError}
    (h : (test.call subject scope).mapError (MatchError.predicateEvaluation test.name) = .error e) :
    e.isPatternFault := by
  cases hcall : test.call subject scope with
  | ok value =>
    rw [hcall] at h
    cases h
  | error source =>
    rw [hcall] at h
    obtain rfl := Except.error.inj h
    rfl

/-- The readings of the pattern at any two sites are related. -/
def Upholds (Q : Site → Site → Reading → Reading → Prop) (scope : Scope) (p : Pattern) : Prop :=
  ∀ s t subject, Q s t (p.read scope s subject) (p.read scope t subject)

section Induction

variable {Q : Site → Site → Reading → Reading → Prop} (hQ : Reading.Closed Q) {scope : Scope}
include hQ

theorem readElements_induction {elements : List (Option Pattern)}
    (h : ∀ p, some p ∈ elements → p.Upholds Q scope)
    (s t : Site) (index : Nat) (items : List Value) :
    Q s t (readElements elements scope s index items)
      (readElements elements scope t index items) := by
  induction elements generalizing index items with
  | nil =>
    rw [readElements_nil, readElements_nil]
    exact hQ.bound s t []
  | cons element elements ih =>
    have hrest := ih (fun p hp => h p (List.mem_cons_of_mem _ hp)) (index + 1)
    match element, items with
    | none, [] | some p, [] =>
      simp only [readElements]
      exact hQ.bound s t []
    | none, item :: items =>
      simp only [readElements]
      exact hrest items
    | some p, item :: items =>
      simp only [readElements]
      exact hQ.both (hQ.child index (h p (List.mem_cons_self ..) _ _ item)) (hrest items)

theorem readFields_induction {fields : List (String × Pattern)}
    (h : ∀ p ∈ fields.map (·.2), p.Upholds Q scope)
    (s t : Site) (index : Nat) (entries : List (String × Value)) :
    Q s t (readFields fields scope s index entries) (readFields fields scope t index entries) := by
  induction fields generalizing index with
  | nil =>
    rw [readFields, readFields]
    exact hQ.bound s t []
  | cons field fields ih =>
    obtain ⟨key, p⟩ := field
    rw [List.map_cons, List.forall_mem_cons] at h
    rw [readFields, readFields]
    cases Entries.find? key entries with
    | none => exact hQ.rejected s t
    | some value => exact hQ.both (hQ.child index (h.1 _ _ value)) (ih h.2 (index + 1))

theorem readBranches_induction {branches : List Pattern}
    (h : ∀ p ∈ branches, p.Upholds Q scope)
    (s t : Site) (index : Nat) (subject : Value) :
    Q s t (readBranches branches scope s index subject)
      (readBranches branches scope t index subject) := by
  induction branches generalizing index with
  | nil =>
    rw [readBranches, readBranches]
    exact hQ.rejected s t
  | cons p branches ih =>
    rw [List.forall_mem_cons] at h
    rw [readBranches, readBranches]
    exact hQ.either (hQ.child index (h.1 _ _ subject)) (ih h.2 (index + 1))

theorem readMembers_induction {members : List Pattern}
    (h : ∀ p ∈ members, p.Upholds Q scope)
    (s t : Site) (index : Nat) (subject : Value) :
    Q s t (readMembers members scope s index subject)
      (readMembers members scope t index subject) := by
  induction members generalizing index with
  | nil =>
    rw [readMembers, readMembers]
    exact hQ.bound s t []
  | cons p members ih =>
    rw [List.forall_mem_cons] at h
    rw [readMembers, readMembers]
    exact hQ.both (hQ.child index (h.1 _ _ subject)) (ih h.2 (index + 1))

theorem readInner_induction {inner : Option Pattern}
    (h : ∀ p ∈ inner.toList, p.Upholds Q scope)
    (s t : Site) (name : String) (extraction : Extraction) :
    Q s t (readInner inner scope s name extraction) (readInner inner scope t name extraction) := by
  rw [readInner.eq_def, readInner.eq_def]
  split
  · cases inner with
    | none => exact hQ.bound s t []
    | some p =>
      dsimp only
      cases extraction.target p.shape with
      | ok target => exact hQ.child 0 (h p (by simp) _ _ target)
      | error fault => exact hQ.fault s t _ rfl
  · exact hQ.rejected s t

theorem read_sequence_induction {elements : List (Option Pattern)} {rest : Option String}
    (h : ∀ p, some p ∈ elements → p.Upholds Q scope)
    (s t : Site) (subject : Value) :
    Q s t ((sequence elements rest).read scope s subject)
      ((sequence elements rest).read scope t subject) := by
  cases subject with
  | sequence items =>
    rw [read, read]
    split
    · exact hQ.both (readElements_induction hQ h s t 0 items) (hQ.bound s t _)
    · exact hQ.rejected s t
  | _ =>
    simp only [read]
    exact hQ.rejected s t

theorem read_mapping_induction {fields : List (String × Pattern)} {rest : Option String}
    (h : ∀ p ∈ fields.map (·.2), p.Upholds Q scope)
    (s t : Site) (subject : Value) :
    Q s t ((mapping fields rest).read scope s subject)
      ((mapping fields rest).read scope t subject) := by
  cases subject with
  | mapping entries =>
    rw [read, read]
    exact hQ.both (readFields_induction hQ h s t 0 entries) (hQ.bound s t _)
  | _ =>
    simp only [read]
    exact hQ.rejected s t

theorem ofBool_induction (s t : Site) (condition : Bool) :
    Q s t (.ofBool condition) (.ofBool condition) := by
  cases condition with
  | false => exact hQ.rejected s t
  | true => exact hQ.bound s t []

/-- A relation that putting readings together keeps is upheld by every pattern. -/
theorem read_induction (p : Pattern) : p.Upholds Q scope := by
  induction p using partsInduction with
  | node p ih =>
    intro s t subject
    cases p with
    | literal value =>
      rw [read, read]
      exact ofBool_induction hQ s t _
    | wildcard =>
      rw [read, read]
      exact hQ.bound s t []
    | binder name =>
      rw [read, read]
      exact hQ.bound s t _
    | predicate test =>
      rw [read, read]
      exact hQ.call _ (fun e he => test_fault he) fun verdict => ofBool_induction hQ s t _
    | sequence elements rest =>
      rw [parts_sequence] at ih
      refine read_sequence_induction hQ (fun q hq => ?_) s t subject
      exact ih q (List.reduceOption_mem_iff.2 hq)
    | mapping fields rest =>
      rw [parts_mapping] at ih
      exact read_mapping_induction hQ ih s t subject
    | alternation branches =>
      rw [parts_alternation] at ih
      rw [read, read]
      exact readBranches_induction hQ ih s t 0 subject
    | conjunction members =>
      rw [parts_conjunction] at ih
      rw [read, read]
      exact readMembers_induction hQ ih s t 0 subject
    | extractor source inner =>
      rw [parts_extractor] at ih
      rw [read, read]
      exact hQ.call _ (by simp) fun extraction => readInner_induction hQ ih s t _ extraction
    | regex engine inner =>
      rw [parts_regex] at ih
      rw [read, read]
      exact hQ.call _ (by simp) fun extraction => readInner_induction hQ ih s t _ extraction

end Induction

/-! ## Sites and failures -/

theorem alike_both {r r' rest rest' : Reading} (h : r.Alike r') (hrest : rest.Alike rest') :
    (r.both rest).Alike (r'.both rest') :=
  h.bind fun
    | none => .refl _
    | some _ => hrest.map _

theorem alike_either {r r' rest rest' : Reading} (h : r.Alike r') (hrest : rest.Alike rest') :
    (r.either rest).Alike (r'.either rest') :=
  h.bind fun
    | none => hrest
    | some _ => .refl _

theorem alike_closed : Reading.Closed fun _ _ r r' => r.Alike r' where
  rejected := fun _ _ => .refl _
  bound := fun _ _ _ => .refl _
  fault := fun _ _ _ _ => .refl _
  child := fun _ h => h
  both := alike_both
  either := alike_either
  call := fun _ _ hnext => Run.Alike.called.bind hnext

theorem fault_closed :
    Reading.Closed fun _ _ r _ => ∀ e, r.result = .error e → e.isPatternFault where
  rejected := fun _ _ e he => absurd he (by simp)
  bound := fun _ _ _ e he => absurd he (by simp)
  fault := fun _ _ e hfault e' he => by
    obtain rfl : e = e' := by simpa using he
    exact hfault
  child := fun _ h => h
  both := fun h hrest e he => by
    rw [Reading.both, Run.result_bind] at he
    rcases bind_eq_error.1 he with he | ⟨_ | pairs, -, he⟩
    · exact h e he
    · exact absurd he (by simp)
    · rw [Run.result_map, map_eq_error] at he
      exact hrest e he
  either := fun h hrest e he => by
    rw [Reading.either, Run.result_bind] at he
    rcases bind_eq_error.1 he with he | ⟨_ | pairs, -, he⟩
    · exact h e he
    · exact hrest e he
    · exact absurd he (by simp)
  call := fun _ hresult hnext e he => by
    rw [Run.result_bind] at he
    rcases bind_eq_error.1 he with he | ⟨a, -, he⟩
    · exact hresult e he
    · exact hnext a e he

/-- What a pattern makes of a subject, and what it calls for it, does not depend on its site. -/
theorem read_alike (p : Pattern) (scope : Scope) (s t : Site) (subject : Value) :
    (p.read scope s subject).Alike (p.read scope t subject) :=
  read_induction alike_closed p s t subject

/-- A pattern fails only through an extractor or a predicate. -/
theorem read_fault {p : Pattern} {scope : Scope} {site : Site} {subject : Value} {e : MatchError}
    (h : (p.read scope site subject).result = .error e) : e.isPatternFault :=
  read_induction fault_closed p site site subject e h

end Pattern

end Destructure
