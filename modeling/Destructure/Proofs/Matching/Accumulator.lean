import Destructure.Proofs.Matching.Names

set_option autoImplicit false

/-! # The shared accumulator

`Pattern.attempt` hands one list of bindings from node to node. A node that does not match may leave
bindings of its parts behind, and only alternations clean up, by length. The invariant that makes
this right is that the names bound so far are never declared by what is still to be matched: then a
binder always appends, and what a failed branch bound is exactly what comes after the mark.

`Follows` says that the outcome of a node continues the bindings before it as its reading tells.
`Pattern.attempt_follows` proves it of all nodes whose names fit, so a compiled pattern matches as
it reads (`Compiled.matchIn_reads`). -/

namespace Destructure

/-! ## Bindings -/

namespace Bindings

/-- A new name is bound at the end. -/
theorem entries_bind {b : Bindings} {name : String} {value : Value} (h : name ∉ b.names) :
    (b.bind name value).entries = b.entries ++ [(name, value)] := Entries.insert_of_not_mem h

/-- Cutting back to a length undoes whatever was bound since. -/
theorem truncate_size {before after : Bindings} (h : before.entries <+: after.entries) :
    after.truncate before.size = before := by
  obtain ⟨added, hadded⟩ := h
  ext1
  show after.entries.take before.entries.length = before.entries
  rw [← hadded, List.take_left]

theorem names_append {before after : Bindings} {pairs : List (String × Value)}
    (h : after.entries = before.entries ++ pairs) :
    after.names = before.names ++ Entries.keys pairs := by
  rw [names, h, Entries.keys, List.map_append]
  rfl

/-- Names that come after others are still new once the others are bound. -/
theorem disjoint_names_of_bound {before after : Bindings} {pairs : List (String × Value)}
    {names others : List String} (hafter : after.entries = before.entries ++ pairs)
    (hpairs : (Entries.keys pairs).Perm names) (hnodup : (names ++ others).Nodup)
    (hbefore : List.Disjoint (names ++ others) before.names) :
    List.Disjoint others after.names := by
  rw [names_append hafter, List.disjoint_append_right]
  refine ⟨(List.disjoint_append_left.1 hbefore).2, fun name hother hname => ?_⟩
  exact (List.nodup_append'.1 hnodup).2.2 (hpairs.mem_iff.1 hname) hother

end Bindings

/-! ## Outcomes that follow a reading -/

/-- How the outcome of a node continues what was bound before it: a match has added its pairs at the
end, and a node that did not match has added something at the end, or nothing. -/
inductive Extends (before : Bindings) :
    Except MatchError (Bool × Bindings) → Except MatchError (Option (List (String × Value))) → Prop
  | failed (e : MatchError) : Extends before (.error e) (.error e)
  | rejected {after : Bindings} (h : before.entries <+: after.entries) :
      Extends before (.ok (false, after)) (.ok none)
  | matched {after : Bindings} {pairs : List (String × Value)}
      (h : after.entries = before.entries ++ pairs) :
      Extends before (.ok (true, after)) (.ok (some pairs))

/-- What continues the bindings after a match continues those before it, with the pairs of the match
in front. -/
theorem Extends.after_match {before after : Bindings} {pairs : List (String × Value)}
    {outcome : Except MatchError (Bool × Bindings)}
    {found : Except MatchError (Option (List (String × Value)))}
    (hafter : after.entries = before.entries ++ pairs) (h : Extends after outcome found) :
    Extends before outcome (Option.map (pairs ++ ·) <$> found) := by
  cases h with
  | failed e => exact .failed e
  | rejected h => exact .rejected ((List.prefix_append _ pairs).trans (hafter ▸ h))
  | matched h => exact .matched (by rw [h, hafter, List.append_assoc])

/-- A step makes the calls of a reading, and its outcome continues the bindings before it as the
reading tells. -/
structure Follows (before : Bindings) (step : Step) (reading : Reading) : Prop where
  calls : step.calls = reading.calls
  result : Extends before step.result reading.result

namespace Follows

variable {before : Bindings}

theorem rejected : Follows before (pure (false, before)) .rejected :=
  ⟨rfl, .rejected (List.prefix_refl _)⟩

theorem bound_nil : Follows before (pure (true, before)) (.bound []) :=
  ⟨rfl, .matched (by simp)⟩

theorem ofBool (condition : Bool) :
    Follows before (pure (condition, before)) (.ofBool condition) := by
  cases condition with
  | false => exact rejected
  | true => exact bound_nil

theorem bind {name : String} {value : Value} (h : name ∉ before.names) :
    Follows before (pure (true, before.bind name value)) (.bound [(name, value)]) :=
  ⟨rfl, .matched (Bindings.entries_bind h)⟩

theorem bindRest {rest : Option String} {value : Value}
    (h : List.Disjoint rest.toList before.names) :
    Follows before (pure (Destructure.bindRest rest value before))
      (.bound (Pattern.leftover rest value)) := by
  cases rest with
  | none => exact bound_nil
  | some name => exact bind (by simpa using h)

/-- The same call comes first. -/
theorem after_run {α : Type} (run : Run MatchError α) {next : α → Step} {next' : α → Reading}
    (h : ∀ a, Follows before (next a) (next' a)) :
    Follows before (run >>= next) (run >>= next') := by
  cases hrun : run.result with
  | error e =>
    rw [Run.bind_of_error hrun, Run.bind_of_error hrun]
    exact ⟨rfl, .failed e⟩
  | ok a =>
    rw [Run.bind_of_ok hrun, Run.bind_of_ok hrun]
    exact ⟨by rw [(h a).calls], (h a).result⟩

/-- Two parts that match together: the second one starts from what the first one has bound. -/
theorem both {step : Step} {next : Bindings → Step} {first second : Reading}
    (hfirst : Follows before step first)
    (hsecond : ∀ pairs after, first.result = .ok (some pairs) →
      after.entries = before.entries ++ pairs → Follows after (next after) second) :
    Follows before
      (step >>= fun (matched, out) => if matched then next out else pure (false, out))
      (first.both second) := by
  obtain ⟨hcalls, hresult⟩ := hfirst
  generalize hstep : step.result = outcome at hresult
  generalize hread : first.result = found at hresult
  rw [Reading.both]
  cases hresult with
  | failed e =>
    rw [Run.bind_of_error hstep, Run.bind_of_error hread]
    exact ⟨hcalls, .failed e⟩
  | rejected h =>
    rw [Run.bind_of_ok hstep, Run.bind_of_ok hread]
    exact ⟨by rw [hcalls]; rfl, .rejected h⟩
  | matched h =>
    have hnext := hsecond _ _ hread h
    rw [Run.bind_of_ok hstep, Run.bind_of_ok hread]
    refine ⟨?_, ?_⟩
    · simp only [ite_true, Run.calls_map, hcalls, hnext.calls]
    · simp only [ite_true, Run.result_map]
      exact hnext.result.after_match h

/-- Two parts whose names are distinct: the second one meets new names again. -/
theorem both_of_disjoint {step : Step} {next : Bindings → Step} {first second : Reading}
    {names others : List String} (hfirst : Follows before step first)
    (hnames : first.BindsNames List.Perm names) (hnodup : (names ++ others).Nodup)
    (hbefore : List.Disjoint (names ++ others) before.names)
    (hsecond : ∀ after : Bindings, List.Disjoint others after.names →
      Follows after (next after) second) :
    Follows before
      (step >>= fun (matched, out) => if matched then next out else pure (false, out))
      (first.both second) := by
  refine hfirst.both fun pairs after hpairs hafter => hsecond after ?_
  exact Bindings.disjoint_names_of_bound hafter (hnames pairs hpairs) hnodup hbefore

/-- Two branches: the second one starts from the same bindings as the first one, because whatever
the first one has left behind is cut off. -/
theorem either {step : Step} {next : Bindings → Step} {first second : Reading}
    (hfirst : Follows before step first) (hsecond : Follows before (next before) second) :
    Follows before
      (step >>= fun (matched, out) =>
        if matched then pure (true, out) else next (out.truncate before.size))
      (first.either second) := by
  obtain ⟨hcalls, hresult⟩ := hfirst
  generalize hstep : step.result = outcome at hresult
  generalize hread : first.result = found at hresult
  rw [Reading.either]
  cases hresult with
  | failed e =>
    rw [Run.bind_of_error hstep, Run.bind_of_error hread]
    exact ⟨hcalls, .failed e⟩
  | rejected h =>
    rw [Run.bind_of_ok hstep, Run.bind_of_ok hread]
    -- whatever the first branch has bound comes after the mark
    simp only [Bool.false_eq_true, ite_false, Bindings.truncate_size h]
    exact ⟨by rw [hcalls, hsecond.calls], hsecond.result⟩
  | matched h =>
    rw [Run.bind_of_ok hstep, Run.bind_of_ok hread]
    exact ⟨by rw [hcalls]; rfl, .matched h⟩

end Follows

/-! ## The parts of a node -/

namespace Pattern

/-- The pattern follows its reading from any bindings whose names it does not declare, and a match
binds the names that it declares. -/
structure Tracks (scope : Scope) (p : Pattern) : Prop where
  names : p.BindsDeclared List.Perm scope
  follows : ∀ site subject out, List.Disjoint p.declared out.names →
    Follows out (p.attempt scope site subject out) (p.read scope site subject)

theorem Tracks.follows_part {scope : Scope} {p : Pattern} (h : p.Tracks scope) {site : Site}
    {subject : Value} {out : Bindings} {others : List String}
    (hout : List.Disjoint (p.declared ++ others) out.names) :
    Follows out (p.attempt scope site subject out) (p.read scope site subject) :=
  h.follows site subject out (List.disjoint_append_left.1 hout).1

section Parts

variable {scope : Scope} (site : Site) {out : Bindings}

theorem attemptElements_follows {elements : List (Option Pattern)}
    (h : ∀ p ∈ elements.reduceOption, p.Tracks scope) (index : Nat) (items : List Value)
    (hnodup : (elements.reduceOption.flatMap declared).Nodup)
    (hout : List.Disjoint (elements.reduceOption.flatMap declared) out.names) :
    Follows out (attemptElements elements scope site index items out)
      (readElements elements scope site index items) := by
  induction elements generalizing index items out with
  | nil =>
    rw [readElements_nil, attemptElements.eq_def]
    exact .bound_nil
  | cons element elements ih =>
    match element, items with
    | none, [] | some p, [] =>
      simp only [attemptElements, readElements]
      exact .bound_nil
    | none, item :: items =>
      simp only [attemptElements, readElements]
      exact ih h (index + 1) items hnodup hout
    | some p, item :: items =>
      rw [List.reduceOption_cons_of_some] at h hnodup hout
      rw [List.forall_mem_cons] at h
      rw [List.flatMap_cons] at hnodup hout
      simp only [attemptElements, readElements]
      refine (h.1.follows_part hout).both_of_disjoint (h.1.names _ _) hnodup hout ?_
      intro after hafter
      exact ih h.2 (index + 1) items hnodup.of_append_right hafter

theorem attemptFields_follows {fields : List (String × Pattern)}
    (h : ∀ p ∈ fields.map (·.2), p.Tracks scope) (index : Nat) (entries : List (String × Value))
    (hnodup : ((fields.map (·.2)).flatMap declared).Nodup)
    (hout : List.Disjoint ((fields.map (·.2)).flatMap declared) out.names) :
    Follows out (attemptFields fields scope site index entries out)
      (readFields fields scope site index entries) := by
  induction fields generalizing index out with
  | nil => exact .bound_nil
  | cons field fields ih =>
    obtain ⟨key, p⟩ := field
    rw [List.map_cons] at h hnodup hout
    rw [List.forall_mem_cons] at h
    rw [List.flatMap_cons] at hnodup hout
    rw [attemptFields, readFields]
    cases Entries.find? key entries with
    | none => exact .rejected
    | some value =>
      refine (h.1.follows_part hout).both_of_disjoint (h.1.names _ _) hnodup hout ?_
      intro after hafter
      exact ih h.2 (index + 1) hnodup.of_append_right hafter

theorem attemptMembers_follows {members : List Pattern} (h : ∀ p ∈ members, p.Tracks scope)
    (index : Nat) (subject : Value) (hnodup : (members.flatMap declared).Nodup)
    (hout : List.Disjoint (members.flatMap declared) out.names) :
    Follows out (attemptMembers members scope site index subject out)
      (readMembers members scope site index subject) := by
  induction members generalizing index out with
  | nil => exact .bound_nil
  | cons p members ih =>
    rw [List.forall_mem_cons] at h
    rw [List.flatMap_cons] at hnodup hout
    rw [attemptMembers, readMembers]
    refine (h.1.follows_part hout).both_of_disjoint (h.1.names _ _) hnodup hout ?_
    intro after hafter
    exact ih h.2 (index + 1) hnodup.of_append_right hafter

/-- The mark of an alternation is the length of the bindings before it, so every branch starts from
these. -/
theorem attemptBranches_follows {branches : List Pattern} (h : ∀ p ∈ branches, p.Tracks scope)
    (index : Nat) (subject : Value)
    (hout : ∀ p ∈ branches, List.Disjoint p.declared out.names) :
    Follows out (attemptBranches branches scope site index subject out.size out)
      (readBranches branches scope site index subject) := by
  induction branches generalizing index with
  | nil => exact .rejected
  | cons p branches ih =>
    rw [List.forall_mem_cons] at h hout
    rw [attemptBranches, readBranches]
    exact (h.1.follows _ subject out hout.1).either (ih h.2 (index + 1) hout.2)

theorem attemptInner_follows {inner : Option Pattern} (h : ∀ p ∈ inner.toList, p.Tracks scope)
    (name : String) (extraction : Extraction)
    (hout : List.Disjoint (inner.toList.flatMap declared) out.names) :
    Follows out (attemptInner inner scope site name extraction out)
      (readInner inner scope site name extraction) := by
  rw [attemptInner.eq_def, readInner.eq_def]
  split
  · cases inner with
    | none => exact .bound_nil
    | some p =>
      rw [Option.toList_some, List.flatMap_singleton] at hout
      dsimp only
      cases extraction.target p.shape with
      | ok target => exact (h p (by simp)).follows _ target out hout
      | error fault => exact ⟨rfl, .failed _⟩
  · exact .rejected

theorem attempt_sequence_follows {elements : List (Option Pattern)} {rest : Option String}
    (h : ∀ p ∈ elements.reduceOption, p.Tracks scope) (subject : Value)
    (hnodup : (sequence elements rest).declared.Nodup)
    (hout : List.Disjoint (sequence elements rest).declared out.names) :
    Follows out ((sequence elements rest).attempt scope site subject out)
      ((sequence elements rest).read scope site subject) := by
  rw [declared_sequence] at hnodup hout
  cases subject with
  | sequence items =>
    rw [attempt, read]
    split
    · next hfits =>
      have helements := attemptElements_follows site h 0 items
        hnodup.of_append_left (List.disjoint_append_left.1 hout).1
      have hnames := readElements_names (R := List.Perm) List.Perm.refl List.Perm.append
        (fun q hq => (h q (List.reduceOption_mem_iff.2 hq)).names) site 0 (le_of_lengthFits hfits)
      exact helements.both_of_disjoint hnames hnodup hout fun _ hafter => .bindRest hafter
    · exact .rejected
  | _ =>
    simp only [attempt, read]
    exact .rejected

theorem attempt_mapping_follows {fields : List (String × Pattern)} {rest : Option String}
    (h : ∀ p ∈ fields.map (·.2), p.Tracks scope) (subject : Value)
    (hnodup : (mapping fields rest).declared.Nodup)
    (hout : List.Disjoint (mapping fields rest).declared out.names) :
    Follows out ((mapping fields rest).attempt scope site subject out)
      ((mapping fields rest).read scope site subject) := by
  rw [declared_mapping] at hnodup hout
  cases subject with
  | mapping entries =>
    rw [attempt, read]
    have hfields := attemptFields_follows site h 0 entries
      hnodup.of_append_left (List.disjoint_append_left.1 hout).1
    have hnames := readFields_names (R := List.Perm) List.Perm.refl List.Perm.append
      (fun q hq => (h q hq).names) site 0 entries
    exact hfields.both_of_disjoint hnames hnodup hout fun _ hafter => .bindRest hafter
  | _ =>
    simp only [attempt, read]
    exact .rejected

end Parts

/-! ## Nodes -/

/-- A match binds the declared names, each of them once. -/
theorem read_perm {p : Pattern} (h : p.Everywhere NamesFit) (scope : Scope) :
    p.BindsDeclared List.Perm scope :=
  read_names List.Perm.refl List.Perm.append List.Perm.trans
    (h.mono fun _ hq => hq.branches_perm) scope

/-- A pattern whose names fit follows its reading from any bindings of other names. -/
theorem attempt_follows {p : Pattern} (h : p.Everywhere NamesFit) (scope : Scope) (site : Site)
    (subject : Value) {out : Bindings} (hout : List.Disjoint p.declared out.names) :
    Follows out (p.attempt scope site subject out) (p.read scope site subject) := by
  induction p using partsInduction generalizing site subject out with
  | node p ih =>
    have hnodup := h.root.declared_nodup
    -- the induction hypothesis, with the names that a match of the part binds
    have hparts : ∀ q ∈ p.parts, q.Tracks scope := fun q hq =>
      ⟨read_perm (h.part hq) scope, fun site subject _ => ih q hq (h.part hq) site subject⟩
    cases p with
    | literal value =>
      rw [attempt, read]
      exact .ofBool _
    | wildcard =>
      rw [attempt, read]
      exact .bound_nil
    | predicate test =>
      rw [attempt, read]
      exact .after_run _ fun _ => .ofBool _
    | binder name =>
      rw [attempt, read]
      exact .bind (by simpa using hout)
    | sequence elements rest =>
      rw [parts_sequence] at hparts
      exact attempt_sequence_follows site hparts subject hnodup hout
    | mapping fields rest =>
      rw [parts_mapping] at hparts
      exact attempt_mapping_follows site hparts subject hnodup hout
    | alternation branches =>
      rw [parts_alternation] at hparts
      rw [attempt, read]
      -- a branch declares the names of the alternation, so they are new for every branch
      refine attemptBranches_follows site hparts 0 subject fun q hq name hname => ?_
      exact hout ((h.root.branches_perm q hq).mem_iff.1 hname)
    | conjunction members =>
      rw [parts_conjunction] at hparts
      rw [declared_conjunction] at hnodup hout
      rw [attempt, read]
      exact attemptMembers_follows site hparts 0 subject hnodup hout
    | extractor source inner =>
      rw [parts_extractor] at hparts
      rw [declared_extractor] at hout
      rw [attempt, read]
      exact .after_run _ fun extraction => attemptInner_follows site hparts _ extraction hout
    | regex engine inner =>
      rw [parts_regex] at hparts
      rw [declared_regex] at hout
      rw [attempt, read]
      exact .after_run _ fun extraction => attemptInner_follows site hparts _ extraction hout

/-- An alternation no branch of which matches gives back the bindings that it was given. -/
theorem attemptBranches_restores {scope : Scope} {branches : List Pattern}
    (h : ∀ p ∈ branches, p.Everywhere NamesFit) (site : Site) (index : Nat) (subject : Value)
    {out after : Bindings} (hout : ∀ p ∈ branches, List.Disjoint p.declared out.names)
    (hafter : (attemptBranches branches scope site index subject out.size out).result
      = .ok (false, after)) : after = out := by
  induction branches generalizing index with
  | nil =>
    obtain ⟨-, rfl⟩ : false = false ∧ out = after := by simpa [attemptBranches] using hafter
    rfl
  | cons p branches ih =>
    rw [List.forall_mem_cons] at h hout
    rw [attemptBranches, Run.result_bind] at hafter
    obtain ⟨⟨matched, left⟩, hp, hafter⟩ := bind_eq_ok.1 hafter
    cases matched with
    | true => simp at hafter
    | false =>
      have hleft := (attempt_follows h.1 scope (site ++ [index]) subject hout.1).result
      rw [hp] at hleft
      generalize (p.read scope (site ++ [index]) subject).result = found at hleft
      cases hleft with
      | rejected hprefix =>
        -- cut back to the mark, the other branches start from `out` again
        simp only [Bool.false_eq_true, ite_false, Bindings.truncate_size hprefix] at hafter
        exact ih h.2 (index + 1) hout.2 hafter

/-- An alternation adds the pairs that it reads to the bindings that it is given, or gives these
back. -/
theorem attempt_alternation {branches : List Pattern}
    (h : (alternation branches).Everywhere NamesFit) (scope : Scope) (site : Site) (subject : Value)
    {out : Bindings} (hout : List.Disjoint (alternation branches).declared out.names) :
    Prod.map id Bindings.entries <$> (alternation branches).attempt scope site subject out
      = (fun found => (found.isSome, out.entries ++ found.getD []))
          <$> (alternation branches).read scope site subject := by
  obtain ⟨hcalls, hresult⟩ := attempt_follows h scope site subject hout
  refine Run.ext (by rw [Run.calls_map, Run.calls_map, hcalls]) ?_
  rw [Run.result_map, Run.result_map]
  generalize hstep : ((alternation branches).attempt scope site subject out).result = outcome
    at hresult
  generalize ((alternation branches).read scope site subject).result = found at hresult
  cases hresult with
  | failed e => rfl
  | matched hafter => simp [Functor.map, Except.map, hafter]
  | rejected hprefix =>
    rw [attempt] at hstep
    have hparts : ∀ p ∈ branches, p.Everywhere NamesFit := fun p hp => h.part (by simpa using hp)
    have hbranches : ∀ p ∈ branches, List.Disjoint p.declared out.names := fun p hp name hname =>
      hout ((h.root.branches_perm p hp).mem_iff.1 hname)
    obtain rfl := attemptBranches_restores hparts site 0 subject hbranches hstep
    simp [Functor.map, Except.map]

end Pattern

/-! ## Compiled patterns -/

/-- The pairs that an outcome binds, in order. -/
def Outcome.pairs? (outcome : Outcome) : Option (List (String × Value)) :=
  outcome.bindings?.map (·.entries)

theorem Outcome.pairs?_injective : Function.Injective Outcome.pairs? := by
  intro o o' h
  cases o with
  | noMatch =>
    cases o' with
    | noMatch => rfl
    | matched b => simp [pairs?, bindings?] at h
  | matched b =>
    cases o' with
    | noMatch => simp [pairs?, bindings?] at h
    | matched b' =>
      have hentries : b.entries = b'.entries := by simpa [pairs?, bindings?] using h
      rw [Bindings.ext hentries]

namespace Compiled

theorem namesFit (c : Compiled) : c.pattern.Everywhere Pattern.NamesFit :=
  c.fits.2.mono fun _ h => h.toNamesFit

/-- A compiled pattern matches as it reads. -/
theorem matchIn_reads (c : Compiled) (subject : Value) (scope : Scope) (site : Site) :
    Outcome.pairs? <$> c.matchIn subject scope site = c.pattern.read scope site subject := by
  have hnew : List.Disjoint c.pattern.declared Bindings.empty.names := List.disjoint_nil_right _
  obtain ⟨hcalls, hresult⟩ := Pattern.attempt_follows c.namesFit scope site subject hnew
  generalize hstep : (c.pattern.attempt scope site subject .empty).result = outcome at hresult
  generalize hread : (c.pattern.read scope site subject).result = found at hresult
  rw [matchIn, map_eq_pure_bind, bind_assoc]
  refine Run.ext ?_ ?_
  · rw [← hcalls]
    cases outcome with
    | error e => rw [Run.calls_bind_of_error hstep]
    | ok a => rw [Run.calls_bind_of_ok hstep]; simp
  · rw [Run.result_bind, hstep, hread]
    cases hresult with
    | failed e => rfl
    | rejected h => rfl
    | @matched after pairs h =>
      show Except.ok (some after.entries) = _
      rw [h]
      rfl

/-- A match comes to what its reading comes to. -/
theorem matchIn_eq_ok (c : Compiled) {subject : Value} {scope : Scope} {site : Site}
    {found : Option (List (String × Value))}
    (h : (c.pattern.read scope site subject).result = .ok found) :
    ∃ outcome, (c.matchIn subject scope site).result = .ok outcome ∧ outcome.pairs? = found := by
  rw [← c.matchIn_reads, Run.result_map] at h
  exact map_eq_ok.1 h

/-- Compiled patterns that read alike match alike. -/
theorem matchIn_alike {c c' : Compiled} {subject subject' : Value} {scope scope' : Scope}
    {site site' : Site}
    (h : (c.pattern.read scope site subject).Alike (c'.pattern.read scope' site' subject')) :
    (c.matchIn subject scope site).Alike (c'.matchIn subject' scope' site') := by
  rw [← c.matchIn_reads, ← c'.matchIn_reads] at h
  exact .of_map Outcome.pairs?_injective h

/-- Matching with the shared accumulator is matching without one. And wherever an alternation stands
in the pattern, it hands on the bindings that it is given with the pairs of its first branch that
matches at the end, or exactly as they are when none of its branches matches. -/
theorem matchIn_refines_read (c : Compiled) (scope : Scope) :
    (∀ subject site,
      Outcome.pairs? <$> c.matchIn subject scope site = c.pattern.read scope site subject) ∧
    ∀ s branches, c.pattern.node? s = some (.alternation branches) →
      ∀ (site : Site) (subject : Value) (out : Bindings),
        List.Disjoint (Pattern.alternation branches).declared out.names →
          Prod.map id Bindings.entries
              <$> (Pattern.alternation branches).attempt scope site subject out
            = (fun found => (found.isSome, out.entries ++ found.getD []))
                <$> (Pattern.alternation branches).read scope site subject := by
  refine ⟨fun subject site => c.matchIn_reads subject scope site, ?_⟩
  intro s branches hs site subject out hout
  exact Pattern.attempt_alternation (c.namesFit.node hs) scope site subject hout

end Compiled

/-- A pair of an item and a null, in either order. -/
def Pattern.besideNull : Pattern :=
  .alternation [.sequence [some (.binder "item"), some (.literal .null)] none,
    .sequence [some (.literal .null), some (.binder "item")] none]

/-- The item beside a null, together with the pair. Where the null comes first, the first branch
binds the item to it and then fails. -/
def Compiled.besideNull : Compiled where
  pattern := .conjunction [.binder "pair", .besideNull]
  binders := ["pair", "item"]
  depth := 4
  accepted := by cbv

theorem Compiled.matchIn_refines_read_besideNull :
    Outcome.pairs? <$> besideNull.matchIn (.sequence [.null, .bool true]) .root []
        = pure (some [("pair", .sequence [.null, .bool true]), ("item", .bool true)]) ∧
      Prod.map id Bindings.entries <$> Pattern.besideNull.attempt .root [1]
          (.sequence [.bool true, .bool true]) (Bindings.empty.bind "pair" .null)
        = pure (false, [("pair", .null)]) := by
  obtain ⟨hmatch, halternation⟩ := besideNull.matchIn_refines_read .root
  refine ⟨(hmatch _ _).trans (by cbv), ?_⟩
  refine (halternation [1] _ rfl [1] _ (Bindings.empty.bind "pair" .null) ?_).trans (by cbv)
  simp [Bindings.names, Bindings.empty, Bindings.bind, Entries.insert, Entries.keys]

end Destructure
