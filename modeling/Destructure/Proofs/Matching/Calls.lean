import Destructure.Proofs.Matching.Accumulator
import Destructure.Proofs.Matching.Visits

set_option autoImplicit false

/-! # The order of calls

The extensions of a pattern are numbered as a walk from left to right meets them that enters a node
before its children (`Pattern.extensionSites`). A match calls them in ascending order of their numbers,
so each of them once at most, and it stops at the first call that fails. `Compiled.CallsInOrder` puts
together what is known of the calls of one match, and `Compiled.callsInOrder` proves it of every
compiled pattern. -/

namespace Destructure

/-! ## Readings that stop at a failing call -/

namespace Reading

variable {first second : Reading} {fails : Call → MatchError → Prop}

theorem stopsAt_both (h : first.StopsAt fails) (hsecond : second.StopsAt fails) :
    (first.both second).StopsAt fails := by
  refine h.bind fun found _ => ?_
  cases found with
  | none => exact .pure none
  | some pairs => exact hsecond.map _

theorem stopsAt_either (h : first.StopsAt fails) (hsecond : second.StopsAt fails) :
    (first.either second).StopsAt fails := by
  refine h.bind fun found _ => ?_
  cases found with
  | none => exact hsecond
  | some pairs => exact .pure (some pairs)

end Reading

namespace Pattern

/-! ## Numbers of extensions -/

/-- The node calls an extension. -/
def isExtension : Pattern → Bool
  | .predicate _ => true
  | .extractor _ _ => true
  | .regex _ _ => true
  | _ => false

theorem isSome_event? (p : Pattern) (scope : Scope) (subject : Value) :
    (p.event? scope subject).isSome = p.isExtension := by
  cases p <;> rfl

/-- The sites of the extensions of a pattern, as a walk from left to right meets them that enters a
node before its children. The place in this list is the number of an extension. -/
def extensionSites (p : Pattern) : List Site :=
  (if p.isExtension then [[]] else [])
    ++ p.numberedParts.attach.flatMap fun q => q.1.2.extensionSites.map (q.1.1 :: ·)
termination_by p
decreasing_by
  exact sizeOf_lt_of_mem_parts (mem_parts_of_getElem? (mem_numberedParts.1 q.2))

theorem extensionSites_eq (p : Pattern) : p.extensionSites =
    (if p.isExtension then [[]] else [])
      ++ p.numberedParts.flatMap fun q => q.2.extensionSites.map (q.1 :: ·) := by
  have h := List.flatMap_subtype (l := p.numberedParts.attach)
    (f := fun q => q.1.2.extensionSites.map (q.1.1 :: ·))
    (g := fun q => q.2.extensionSites.map (q.1 :: ·)) fun _ _ => rfl
  rw [extensionSites, h, List.unattach_attach]

/-- Numbered are the nodes that call an extension, and no others. -/
theorem mem_extensionSites {p : Pattern} {s : Site} :
    s ∈ p.extensionSites ↔ ∃ q, p.node? s = some q ∧ q.isExtension := by
  induction p using partsInduction generalizing s with
  | node p ih =>
    rw [extensionSites_eq, List.mem_append, List.mem_flatMap]
    cases s with
    | nil => cases hextension : p.isExtension <;> simp [hextension]
    | cons i s =>
      have hroot : i :: s ∉ (if p.isExtension then [[]] else [] : List Site) := by
        cases p.isExtension <;> simp
      simp only [hroot, false_or, List.mem_map, List.cons.injEq, Prod.exists, node?_cons]
      constructor
      · rintro ⟨j, c, hc, t, ht, rfl, rfl⟩
        have hchild := mem_numberedParts.1 hc
        obtain ⟨q, hq, hextension⟩ := (ih c (mem_parts_of_getElem? hchild)).1 ht
        exact ⟨q, ⟨c, hchild, hq⟩, hextension⟩
      · rintro ⟨q, ⟨c, hchild, hq⟩, hextension⟩
        refine ⟨i, c, mem_numberedParts.2 hchild, s, ?_, rfl, rfl⟩
        exact (ih c (mem_parts_of_getElem? hchild)).2 ⟨q, hq, hextension⟩

/-- The walk meets sites in lexicographic order. -/
theorem lex_extensionSites (p : Pattern) : p.extensionSites.Pairwise (List.Lex (· < ·)) := by
  induction p using partsInduction with
  | node p ih =>
    rw [extensionSites_eq, List.pairwise_append]
    refine ⟨by cases p.isExtension <;> simp, ?_, ?_⟩
    · refine pairwise_lex_flatMap (pairwise_numbered p.children 0) fun q hq => ?_
      exact ih q.2 (mem_parts_of_getElem? (mem_numberedParts.1 hq))
    · intro s hs t ht
      obtain rfl : s = [] := by
        split at hs
        · exact List.mem_singleton.1 hs
        · cases hs
      obtain ⟨q, -, ht⟩ := List.mem_flatMap.1 ht
      obtain ⟨t, -, rfl⟩ := List.mem_map.1 ht
      exact .nil

theorem nodup_extensionSites (p : Pattern) : p.extensionSites.Nodup :=
  nodup_of_pairwise_lex p.lex_extensionSites

/-! ## Calls in order -/

/-- A match calls some of the extensions, each of them once and in the order of their numbers. -/
theorem sites_sublist (p : Pattern) (scope : Scope) (site : Site) (subject : Value) :
    ((p.read scope site subject).calls.map (·.site)).Sublist
      (p.extensionSites.map (site ++ ·)) := by
  induction p using partsInduction generalizing site subject with
  | node p ih =>
    have hown : (((p.event? scope subject).map (Call.mk site)).toList.map (·.site)).Sublist
        ((if p.isExtension then [[]] else []).map (site ++ ·)) := by
      rw [← p.isSome_event? scope subject]
      cases p.event? scope subject <;> simp
    rw [calls_read, extensionSites_eq, List.map_append, List.map_append, List.map_flatMap,
      List.map_flatMap]
    refine hown.append ?_
    have htasks : ∀ task ∈ p.tried scope subject,
        ((task.read scope site).calls.map (·.site)).Sublist
          ((task.part.extensionSites.map (task.index :: ·)).map (site ++ ·)) := by
      intro task htask
      have hpart := mem_parts_of_getElem? (children_of_tried htask)
      have hsites := ih task.part hpart (site ++ [task.index]) task.value
      simp only [List.append_assoc, List.singleton_append] at hsites
      rwa [List.map_map]
    refine (List.Sublist.flatMap_right _ htasks).trans ?_
    have hparts := (p.tried_sublist scope subject).flatMap
      fun q => (q.2.extensionSites.map (q.1 :: ·)).map (site ++ ·)
    rwa [List.flatMap_map] at hparts

/-- A call is made at an extension of the pattern, and it is the call of that extension for the value
that is handed to it. -/
theorem located_of_mem_calls {p : Pattern} {scope : Scope} {site : Site} {subject : Value}
    {call : Call} (h : call ∈ (p.read scope site subject).calls) :
    ∃ s q value, call.site = site ++ s ∧ p.node? s = some q ∧
      p.handed scope subject s = some value ∧ q.event? scope value = some call.event := by
  induction p using partsInduction generalizing site subject with
  | node p ih =>
    rw [calls_read, List.mem_append, List.mem_flatMap] at h
    rcases h with hown | ⟨task, htask, hcall⟩
    · obtain ⟨event, hevent, rfl⟩ := Option.map_eq_some_iff.1 (Option.mem_toList.1 hown)
      exact ⟨[], p, subject, by simp, rfl, rfl, hevent⟩
    · have hchild := children_of_tried htask
      obtain ⟨s, q, value, hsite, hq, hvalue, hevent⟩ :=
        ih task.part (mem_parts_of_getElem? hchild) hcall
      refine ⟨task.index :: s, q, value, by simp [hsite], ?_, ?_, hevent⟩
      · exact node?_cons.2 ⟨task.part, hchild, hq⟩
      · rw [handed_cons htask, hvalue]

/-! ## Alternations -/

/-- The value that is handed to a node below another one is handed on by that. -/
theorem handed_append {p q : Pattern} {scope : Scope} {subject value : Value} {s : Site}
    (hq : p.node? s = some q) (h : p.handed scope subject s = some value) (t : Site) :
    p.handed scope subject (s ++ t) = q.handed scope value t := by
  induction s generalizing p subject with
  | nil =>
    obtain rfl : p = q := by simpa using hq
    obtain rfl : subject = value := by simpa using h
    rfl
  | cons i s ih =>
    obtain ⟨c, hc, hq⟩ := node?_cons.1 hq
    rw [handed] at h
    obtain ⟨task, hfind, hvalue⟩ := Option.bind_eq_some_iff.1 h
    obtain rfl : task.index = i := by simpa using List.find?_some hfind
    have htask := List.mem_of_find?_eq_some hfind
    obtain rfl : task.part = c := by simpa using (children_of_tried htask).symm.trans hc
    rw [List.cons_append, handed_cons htask]
    exact ih hq hvalue

/-- Behind a branch that is not left, no branch is tried. -/
theorem index_le_of_tried (goesOn : Task → Bool) {branches : List Pattern} {value : Value}
    {start i : Nat} {b : Pattern} (hb : branches[i]? = some b)
    (hstop : ¬ goesOn ⟨start + i, b, value⟩) {task : Task}
    (h : task ∈ upTo goesOn (Task.onSame value branches start)) : task.index ≤ start + i := by
  induction branches generalizing start i with
  | nil => simp at hb
  | cons first others ih =>
    rw [Task.onSame, upTo] at h
    cases i with
    | zero =>
      obtain rfl : first = b := by simpa using hb
      rw [if_neg (by exact hstop), List.mem_singleton] at h
      exact h ▸ le_refl start
    | succ i =>
      split at h
      · rcases List.mem_cons.1 h with rfl | h
        · exact Nat.le_add_right start (i + 1)
        · have hnext : start + 1 + i = start + (i + 1) := by omega
          have hle := ih (by simpa using hb) (hnext ▸ hstop) h
          omega
      · obtain rfl := List.mem_singleton.1 h
        exact Nat.le_add_right start (i + 1)

/-- Once a branch has matched, nothing is handed to a later one. -/
theorem handed_branch {scope : Scope} {branches : List Pattern} {value : Value} {i j : Nat}
    {b : Pattern} {pairs : List (String × Value)} (hij : i < j) (hb : branches[i]? = some b)
    (hmatch : (b.read scope [] value).result = .ok (some pairs)) (t : Site) :
    (alternation branches).handed scope value (j :: t) = none := by
  refine handed_cons_eq_none (fun task htask => ?_) t
  have hresult : (⟨0 + i, b, value⟩ : Task).result scope = .ok (some pairs) :=
    ((b.read_alike scope _ _ value).result).trans hmatch
  have hstop : ¬ (⟨0 + i, b, value⟩ : Task).rejects scope := by
    rw [Task.rejects, hresult]
    exact Bool.false_ne_true
  have hle := index_le_of_tried (·.rejects scope) hb hstop htask
  omega

/-! ## Calls that fail -/

/-- The call of a node fails: the function of a predicate does, or what an extractor produced lacks
what the inner pattern demands. -/
inductive Fails : Pattern → Event → MatchError → Prop
  | predicate {test : Predicate} {subject : Value} {scope : Scope} {source : CallError}
      (h : test.call subject scope = .error source) :
      Fails (.predicate test) (.test test subject scope) (.predicateEvaluation test.name source)
  | extractor {source : Extractor} {inner : Pattern} {subject : Value} {fault : ContractFault}
      (hmatched : (source.extract subject).matched)
      (htarget : (source.extract subject).target inner.shape = .error fault) :
      Fails (.extractor source (some inner)) (.extract source subject)
        (.extractorContract source.name fault)
  | regex {engine : Regex.Engine} {inner : Pattern} {subject : Value} {fault : ContractFault}
      (hmatched : (engine.extract subject).matched)
      (htarget : (engine.extract subject).target inner.shape = .error fault) :
      Fails (.regex engine (some inner)) (.search engine subject)
        (.extractorContract engine.source fault)

/-- The call was made below `site` by a node of the pattern, and fails there. -/
def FailsAt (p : Pattern) (site : Site) (call : Call) (e : MatchError) : Prop :=
  ∃ s q, call.site = site ++ s ∧ p.node? s = some q ∧ q.Fails call.event e

theorem innerPlan_eq_error {name : String} {inner : Option Pattern} {extraction : Extraction}
    {e : MatchError} : innerPlan name inner extraction = .error e ↔
      ∃ p fault, inner = some p ∧ extraction.matched ∧
        extraction.target p.shape = .error fault ∧ .extractorContract name fault = e := by
  unfold innerPlan
  by_cases hmatched : extraction.matched
  · cases inner with
    | none => simp [hmatched]
    | some p => cases htarget : extraction.target p.shape <;> simp [hmatched, htarget]
  · simp [hmatched]

/-- The call of a node fails exactly when there is no plan. -/
theorem fails_iff {p : Pattern} {scope : Scope} {subject : Value} {event : Event}
    (h : p.event? scope subject = some event) {e : MatchError} :
    p.Fails event e ↔ p.plan scope subject = .error e := by
  cases p with
  | predicate test =>
    obtain rfl := Option.some.inj h
    rw [plan, map_eq_error]
    constructor
    · rintro ⟨hcall⟩
      rw [hcall]
      rfl
    · intro herror
      cases hcall : test.call subject scope with
      | error source =>
        rw [hcall] at herror
        obtain rfl := Except.error.inj herror
        exact .predicate hcall
      | ok value =>
        rw [hcall] at herror
        cases herror
  | extractor source inner =>
    obtain rfl := Option.some.inj h
    rw [plan, innerPlan_eq_error]
    constructor
    · rintro ⟨⟩
      rename_i inner fault hmatched htarget
      exact ⟨inner, fault, rfl, hmatched, htarget, rfl⟩
    · rintro ⟨inner, fault, rfl, hmatched, htarget, rfl⟩
      exact .extractor hmatched htarget
  | regex engine inner =>
    obtain rfl := Option.some.inj h
    rw [plan, innerPlan_eq_error]
    constructor
    · rintro ⟨⟩
      rename_i inner fault hmatched htarget
      exact ⟨inner, fault, rfl, hmatched, htarget, rfl⟩
    · rintro ⟨inner, fault, rfl, hmatched, htarget, rfl⟩
      exact .regex hmatched htarget
  | _ => cases h

/-- A node that calls nothing always has a plan. -/
theorem plan_ne_error {p : Pattern} {scope : Scope} {subject : Value}
    (h : p.event? scope subject = none) (e : MatchError) : p.plan scope subject ≠ .error e := by
  cases p with
  | predicate test => cases h
  | extractor source inner => cases h
  | regex engine inner => cases h
  | sequence elements rest => cases subject <;> simp [plan]
  | mapping fields rest => cases subject <;> simp [plan]
  | _ => simp [plan]

section Stopping

variable {root : Pattern} {site : Site} {scope : Scope}

/-- Which call fails at a node is known from that node alone. -/
theorem failsAt_iff {p : Pattern} {s : Site} (hp : root.node? s = some p) {event : Event}
    {e : MatchError} : root.FailsAt site ⟨site ++ s, event⟩ e ↔ p.Fails event e := by
  constructor
  · rintro ⟨t, q, hsite, hq, hfails⟩
    obtain rfl : s = t := List.append_cancel_left hsite
    obtain rfl : p = q := by simpa using hp.symm.trans hq
    exact hfails
  · exact fun hfails => ⟨s, p, rfl, hp, hfails⟩

/-- The visit of a node stops when its own call fails. -/
theorem stopsAt_visit {p : Pattern} {s : Site} (hp : root.node? s = some p) (subject : Value) :
    (p.visit scope (site ++ s) subject).StopsAt (root.FailsAt site) := by
  cases hevent : p.event? scope subject with
  | none =>
    refine ⟨fun plan _ call hcall => ?_, fun e he => absurd he (plan_ne_error hevent e)⟩
    rw [visit, hevent] at hcall
    cases hcall
  | some event =>
    rw [visit, hevent]
    exact .called fun e => (failsAt_iff hp).trans (fails_iff hevent)

theorem stopsAt_readEvery {tasks : List Task} {s : Site} {left : Option (List (String × Value))}
    (h : ∀ task ∈ tasks, (task.read scope (site ++ s)).StopsAt (root.FailsAt site)) :
    (Plan.readEvery scope (site ++ s) tasks (pure left)).StopsAt (root.FailsAt site) := by
  induction tasks with
  | nil => exact .pure left
  | cons task rest ih =>
    rw [List.forall_mem_cons] at h
    exact Reading.stopsAt_both h.1 (ih h.2)

theorem stopsAt_readFirst {tasks : List Task} {s : Site}
    (h : ∀ task ∈ tasks, (task.read scope (site ++ s)).StopsAt (root.FailsAt site)) :
    (Plan.readFirst scope (site ++ s) tasks).StopsAt (root.FailsAt site) := by
  induction tasks with
  | nil => exact .pure none
  | cons task rest ih =>
    rw [List.forall_mem_cons] at h
    exact Reading.stopsAt_either h.1 (ih h.2)

/-- A match stops at the first call that fails, and then that call is what it fails with. -/
theorem stopsAt_read {p : Pattern} {s : Site} (hp : root.node? s = some p) (subject : Value) :
    (p.read scope (site ++ s) subject).StopsAt (root.FailsAt site) := by
  induction p using partsInduction generalizing s subject with
  | node p ih =>
    rw [read_eq]
    refine (stopsAt_visit hp subject).bind fun plan hplan => ?_
    have htasks : ∀ task ∈ plan.tasks,
        (task.read scope (site ++ s)).StopsAt (root.FailsAt site) := by
      intro task htask
      have hchild := mem_numberedParts.1 ((tasks_sublist hplan).subset (List.mem_map_of_mem htask))
      have hnode : root.node? (s ++ [task.index]) = some task.part := by
        rw [node?_append hp]
        exact node?_cons.2 ⟨task.part, hchild, rfl⟩
      have hpart := ih task.part (mem_parts_of_getElem? hchild) hnode task.value
      rwa [← List.append_assoc] at hpart
    cases plan with
    | every tasks left => exact stopsAt_readEvery htasks
    | first tasks => exact stopsAt_readFirst htasks

end Stopping

end Pattern

/-! ## The calls of one match -/

namespace Compiled

/-- What is known of the calls of one match, for a pattern that stands at `site`.

* A call comes from a numbered node, and it is the call of that node for the value handed to it.
* The numbers of the calls ascend strictly.
* Below a node only what the node calls for the value handed to it is called, and nothing if no value
  is handed to it. Nothing is handed to a branch behind one that has matched.
* A call that fails is the last one, and its failure is the result; and every failure is that of the
  last call. -/
structure CallsInOrder (c : Compiled) (subject : Value) (scope : Scope) (site : Site) : Prop where
  located : ∀ call ∈ (c.matchIn subject scope site).calls,
    ∃ s q value, call.site = site ++ s ∧ s ∈ c.pattern.extensionSites ∧ c.pattern.node? s = some q ∧
      c.pattern.handed scope subject s = some value ∧ q.event? scope value = some call.event
  ascending : (c.matchIn subject scope site).calls.Pairwise fun a b =>
    a.number (c.pattern.extensionSites.map (site ++ ·))
      < b.number (c.pattern.extensionSites.map (site ++ ·))
  below : ∀ s q, c.pattern.node? s = some q →
    Pattern.callsBelow (c.matchIn subject scope site).calls (site ++ s)
      = match c.pattern.handed scope subject s with
        | some value => (q.read scope (site ++ s) value).calls
        | none => []
  settled : ∀ s branches value, c.pattern.node? s = some (.alternation branches) →
    c.pattern.handed scope subject s = some value →
      ∀ (i j : Nat) b pairs, i < j → branches[i]? = some b →
        (b.read scope [] value).result = .ok (some pairs) →
          c.pattern.handed scope subject (s ++ [j]) = none
  failing : ∀ call ∈ (c.matchIn subject scope site).calls, ∀ e, c.pattern.FailsAt site call e →
    (c.matchIn subject scope site).calls.getLast? = some call ∧
      (c.matchIn subject scope site).result = .error e
  failed : ∀ e, (c.matchIn subject scope site).result = .error e →
    ∃ call, (c.matchIn subject scope site).calls.getLast? = some call ∧
      c.pattern.FailsAt site call e

theorem calls_matchIn (c : Compiled) (subject : Value) (scope : Scope) (site : Site) :
    (c.matchIn subject scope site).calls = (c.pattern.read scope site subject).calls := by
  rw [← c.matchIn_reads, Run.calls_map]

theorem result_matchIn_eq_error (c : Compiled) (subject : Value) (scope : Scope) (site : Site)
    (e : MatchError) : (c.matchIn subject scope site).result = .error e ↔
      (c.pattern.read scope site subject).result = .error e := by
  rw [← c.matchIn_reads, Run.result_map, map_eq_error]

theorem callsInOrder (c : Compiled) (subject : Value) (scope : Scope) (site : Site) :
    c.CallsInOrder subject scope site := by
  have hstops : (c.pattern.read scope (site ++ []) subject).StopsAt (c.pattern.FailsAt site) :=
    Pattern.stopsAt_read c.pattern.node?_nil subject
  rw [List.append_nil] at hstops
  constructor
  · intro call hcall
    rw [calls_matchIn] at hcall
    obtain ⟨s, q, value, hsite, hq, hvalue, hevent⟩ := Pattern.located_of_mem_calls hcall
    refine ⟨s, q, value, hsite, Pattern.mem_extensionSites.2 ⟨q, hq, ?_⟩, hq, hvalue, hevent⟩
    rw [← q.isSome_event? scope value, hevent]
    rfl
  · rw [calls_matchIn]
    refine pairwise_number ?_ (c.pattern.sites_sublist scope site subject)
    exact c.pattern.nodup_extensionSites.map (List.append_right_injective site)
  · intro s q hq
    rw [calls_matchIn]
    exact Pattern.calls_below hq scope site subject
  · intro s branches value hs hvalue i j b pairs hij hb hmatch
    rw [Pattern.handed_append hs hvalue]
    exact Pattern.handed_branch hij hb hmatch []
  · intro call hcall e hfails
    rw [calls_matchIn] at hcall ⊢
    rw [result_matchIn_eq_error]
    exact hstops.last_of_fails hcall hfails
  · intro e he
    rw [result_matchIn_eq_error] at he
    rw [calls_matchIn]
    exact hstops.fails_of_error he

end Compiled

end Destructure
