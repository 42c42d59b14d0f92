import Destructure.Proofs.Entries
import Destructure.Proofs.Matching.Binders
import Destructure.Proofs.Matching.Target

set_option autoImplicit false

/-! # What bound values inherit from the subject

A match binds values that it has taken from the subject: items, values of entries, what is left over of
a sequence or a mapping, and what its extensions report about such values. A property that all of these
steps hand on (`Value.Inherited`, `Pattern.HandsOn`) is handed on from the subject to every value that is
bound (`Compiled.inherits`). -/

namespace Destructure

/-- A property that values hand on to what is taken out of them. -/
structure Value.Inherited (P : Value → Prop) : Prop where
  items : ∀ {items : List Value}, P (.sequence items) → ∀ item ∈ items, P item
  drop : ∀ {items : List Value}, P (.sequence items) → ∀ n, P (.sequence (items.drop n))
  entries : ∀ {entries : List (String × Value)}, P (.mapping entries) → ∀ entry ∈ entries, P entry.2
  filter : ∀ {entries : List (String × Value)}, P (.mapping entries) →
    ∀ keep, P (.mapping (entries.filter keep))

/-- The value comes with the extraction, by itself or as groups. -/
def Extraction.Offers (extraction : Extraction) (target : Value) : Prop :=
  extraction.value = some target ∨ ∃ groups ∈ extraction.groups, groups.toValue = target

theorem Extraction.not_offers_rejected (target : Value) : ¬ rejected.Offers target := by
  rintro (h | ⟨groups, h, -⟩) <;> cases h

theorem Extraction.offers_produced {value target : Value} (h : (produced value).Offers target) :
    target = value := by
  rcases h with h | ⟨groups, h, -⟩
  · exact (Option.some.inj h).symm
  · cases h

/-- The source finds only values with the property in values that have it. -/
def Source.HandsOn (source : Source) (P : Value → Prop) : Prop :=
  ∀ subject, P subject → (source.extract subject).matched →
    ∀ target, (source.extract subject).Offers target → P target

/-! ## Plans -/

/-- All values that the plan speaks of have the property. -/
structure Plan.Carries (P : Value → Prop) (plan : Plan) : Prop where
  tasks : ∀ task ∈ plan.tasks, P task.value
  left : ∀ tasks pairs, plan = .every tasks (some pairs) → ∀ pair ∈ pairs, P pair.2

section Plans

variable {P : Value → Prop}

namespace Task

theorem onSame_carries {value : Value} (h : P value) (ps : List Pattern) (index : Nat) :
    ∀ task ∈ onSame value ps index, P task.value := by
  induction ps generalizing index with
  | nil => simp [onSame]
  | cons p ps ih =>
    rw [onSame, List.forall_mem_cons]
    exact ⟨h, ih (index + 1)⟩

theorem onItems_carries {items : List Value} (h : ∀ item ∈ items, P item)
    (elements : List (Option Pattern)) (index : Nat) :
    ∀ task ∈ onItems elements index items, P task.value := by
  induction elements generalizing index items with
  | nil => cases items <;> simp [onItems]
  | cons element elements ih =>
    cases items with
    | nil => cases element <;> simp [onItems]
    | cons item items =>
      rw [List.forall_mem_cons] at h
      have hrest := ih h.2 (index + 1)
      cases element with
      | none => exact hrest
      | some p =>
        rw [onItems, List.forall_mem_cons]
        exact ⟨h.1, hrest⟩

theorem onEntries_carries {entries : List (String × Value)} (h : ∀ entry ∈ entries, P entry.2)
    (fields : List (String × Pattern)) (index : Nat) :
    ∀ task ∈ onEntries entries fields index, P task.value := by
  induction fields generalizing index with
  | nil => simp [onEntries]
  | cons field fields ih =>
    obtain ⟨key, p⟩ := field
    rw [onEntries]
    cases hvalue : Entries.find? key entries with
    | none => simp
    | some value =>
      rw [List.forall_mem_cons]
      exact ⟨h _ (Entries.mem_of_find? hvalue), ih (index + 1)⟩

end Task

namespace Plan

theorem carries_reject : reject.Carries P where
  tasks := by simp [reject, tasks]
  left tasks pairs h := by cases h

theorem carries_bind {pairs : List (String × Value)} (h : ∀ pair ∈ pairs, P pair.2) :
    (bind pairs).Carries P where
  tasks := by simp [bind, tasks]
  left tasks found hfound := by
    cases hfound
    exact h

theorem carries_ofBool (condition : Bool) : (ofBool condition).Carries P := by
  cases condition with
  | false => exact carries_reject
  | true => exact carries_bind (by simp)

theorem carries_leftover {rest : Option String} {value : Value} (h : P value) :
    ∀ pair ∈ Pattern.leftover rest value, P pair.2 := by
  rw [Pattern.leftover, List.forall_mem_map]
  exact fun _ _ => h

end Plan

namespace Pattern

/-- The extension of the node hands the property on, if it calls one to take the subject apart. -/
def HandsOn (P : Value → Prop) : Pattern → Prop
  | .extractor source _ => (Source.extractor source).HandsOn P
  | .regex engine _ => (Source.regex engine).HandsOn P
  | _ => True

theorem innerPlan_carries {name : String} {inner : Option Pattern} {extraction : Extraction}
    (h : extraction.matched → ∀ target, extraction.Offers target → P target) {plan : Plan}
    (hplan : innerPlan name inner extraction = .ok plan) : plan.Carries P := by
  unfold innerPlan at hplan
  split at hplan
  · next hmatched =>
    cases inner with
    | none =>
      obtain rfl := Except.ok.inj hplan
      exact Plan.carries_bind (by simp)
    | some p =>
      dsimp only at hplan
      cases htarget : extraction.target p.shape with
      | error fault =>
        rw [htarget] at hplan
        cases hplan
      | ok target =>
        rw [htarget] at hplan
        obtain rfl := Except.ok.inj hplan
        have hoffers := (Extraction.target_eq_ok_iff.1 htarget).produced
        exact ⟨by simpa [Plan.tasks] using h hmatched target hoffers, by rintro _ _ ⟨⟩; simp⟩
  · obtain rfl := Except.ok.inj hplan
    exact Plan.carries_reject

/-- A node hands the property on from its subject to its parts and to what it binds itself. -/
theorem plan_carries (hP : Value.Inherited P) {p : Pattern} (h : p.HandsOn P) {scope : Scope}
    {subject : Value} (hsubject : P subject) {plan : Plan}
    (hplan : p.plan scope subject = .ok plan) : plan.Carries P := by
  cases p with
  | literal value =>
    obtain rfl := Except.ok.inj hplan
    exact Plan.carries_ofBool _
  | wildcard =>
    obtain rfl := Except.ok.inj hplan
    exact Plan.carries_bind (by simp)
  | binder name =>
    obtain rfl := Except.ok.inj hplan
    exact Plan.carries_bind (by simpa using hsubject)
  | sequence elements rest =>
    cases subject with
    | sequence items =>
      obtain rfl := Except.ok.inj hplan
      split
      · refine ⟨Task.onItems_carries (hP.items hsubject) elements 0, ?_⟩
        rintro _ _ ⟨⟩
        exact Plan.carries_leftover (hP.drop hsubject _)
      · exact Plan.carries_reject
    | _ =>
      obtain rfl := Except.ok.inj hplan
      exact Plan.carries_reject
  | mapping fields rest =>
    cases subject with
    | mapping entries =>
      obtain rfl := Except.ok.inj hplan
      refine ⟨Task.onEntries_carries (hP.entries hsubject) fields 0, ?_⟩
      intro tasks pairs hevery
      have hleft := (Plan.every.inj hevery).2
      split at hleft
      · obtain rfl := Option.some.inj hleft
        exact Plan.carries_leftover (hP.filter hsubject _)
      · cases hleft
    | _ =>
      obtain rfl := Except.ok.inj hplan
      exact Plan.carries_reject
  | alternation branches =>
    obtain rfl := Except.ok.inj hplan
    exact ⟨Task.onSame_carries hsubject branches 0, by rintro _ _ ⟨⟩⟩
  | conjunction members =>
    obtain rfl := Except.ok.inj hplan
    exact ⟨Task.onSame_carries hsubject members 0, by rintro _ _ ⟨⟩; simp⟩
  | predicate test =>
    obtain ⟨verdict, -, rfl⟩ := map_eq_ok.1 hplan
    exact Plan.carries_ofBool _
  | extractor source inner => exact innerPlan_carries (h subject hsubject) hplan
  | regex engine inner => exact innerPlan_carries (h subject hsubject) hplan

end Pattern

/-! ## Matches -/

/-- Whatever the reading binds has the property. -/
def Reading.Binds (P : Value → Prop) (reading : Reading) : Prop :=
  ∀ pairs, reading.result = .ok (some pairs) → ∀ pair ∈ pairs, P pair.2

theorem Plan.binds_readEvery {scope : Scope} {site : Site} {tasks : List Task} {last : Reading}
    (h : ∀ task ∈ tasks, (task.read scope site).Binds P) (hlast : last.Binds P) :
    (readEvery scope site tasks last).Binds P := by
  induction tasks with
  | nil => exact hlast
  | cons task rest ih =>
    rw [List.forall_mem_cons] at h
    intro pairs hpairs
    obtain ⟨first, others, hfirst, hothers, rfl⟩ := Reading.result_both_eq_some.1 hpairs
    rw [List.forall_mem_append]
    exact ⟨h.1 first hfirst, ih h.2 others hothers⟩

theorem Plan.binds_readFirst {scope : Scope} {site : Site} {tasks : List Task}
    (h : ∀ task ∈ tasks, (task.read scope site).Binds P) : (readFirst scope site tasks).Binds P := by
  induction tasks with
  | nil =>
    intro pairs hpairs
    cases hpairs
  | cons task rest ih =>
    rw [List.forall_mem_cons] at h
    intro pairs hpairs
    rcases Reading.result_either_eq_some.1 hpairs with hfirst | ⟨-, hrest⟩
    · exact h.1 pairs hfirst
    · exact ih h.2 pairs hrest

/-- What a pattern binds has the property if the subject has it. -/
theorem Pattern.binds_read (hP : Value.Inherited P) {p : Pattern} (h : p.Everywhere (HandsOn P))
    (scope : Scope) (site : Site) {subject : Value} (hsubject : P subject) :
    (p.read scope site subject).Binds P := by
  induction p using partsInduction generalizing site subject with
  | node p ih =>
    intro pairs hpairs
    rw [read_eq, Run.result_bind] at hpairs
    obtain ⟨plan, hplan, hpairs⟩ := bind_eq_ok.1 hpairs
    have hcarries := plan_carries hP h.root hsubject hplan
    have htasks : ∀ task ∈ plan.tasks, (task.read scope site).Binds P := by
      intro task htask
      have hpart := mem_parts_of_mem_tasks hplan htask
      exact ih task.part hpart (h.part hpart) _ (hcarries.tasks task htask)
    cases plan with
    | every tasks left =>
      refine Plan.binds_readEvery htasks (fun found hfound => ?_) pairs hpairs
      exact hcarries.left tasks found (congrArg _ (Except.ok.inj hfound))
    | first tasks => exact Plan.binds_readFirst htasks pairs hpairs

/-- What a compiled pattern binds has the property if the subject has it. -/
theorem Compiled.inherits (hP : Value.Inherited P) {c : Compiled}
    (h : c.pattern.Everywhere (Pattern.HandsOn P)) {subject : Value} (hsubject : P subject)
    {scope : Scope} {site : Site} {b : Bindings}
    (hmatch : (c.matchIn subject scope site).result = .ok (.matched b)) :
    ∀ entry ∈ b.entries, P entry.2 :=
  Pattern.binds_read hP h scope site hsubject _ (read_of_matched hmatch)

end Plans

end Destructure
