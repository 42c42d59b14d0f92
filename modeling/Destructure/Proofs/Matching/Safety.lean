import Destructure.Proofs.Matching.Inheritance
import Destructure.Proofs.Value.Data

set_option autoImplicit false

/-! # Patterns that cannot fail on data

A pattern fails through its extensions only. An extractor keeps its contract if it delivers a value
with every match, and delivers data for data, so that the nodes below it get data again
(`Extraction.Delivers`). If all extensions of a pattern behave, the pattern does not fail on data
(`Pattern.read_ok`). -/

namespace Destructure

theorem Value.inherited_isData : Inherited IsData where
  items := IsData.items
  drop h _ := .sequence fun item hitem => h.items item (List.mem_of_mem_drop hitem)
  entries := IsData.entries
  filter h _ := .mapping fun entry hentry => h.entries entry (List.mem_of_mem_filter hentry)

/-- A match comes with a value, and everything that comes with it is data. -/
structure Extraction.Delivers (extraction : Extraction) : Prop where
  value : extraction.matched → ∃ value, extraction.value = some value ∧ value.IsData
  groups : ∀ groups, extraction.groups = some groups → groups.toValue.IsData

namespace Extraction

theorem delivers_rejected : rejected.Delivers where
  value h := by cases h
  groups _ h := by cases h

theorem delivers_produced {value : Value} (h : value.IsData) : (produced value).Delivers where
  value _ := ⟨value, rfl, h⟩
  groups _ h := by cases h

theorem Delivers.offers {extraction : Extraction} (h : extraction.Delivers)
    (hmatched : extraction.matched) {target : Value} (htarget : extraction.Offers target) :
    target.IsData := by
  rcases htarget with htarget | ⟨groups, hgroups, rfl⟩
  · obtain ⟨value, hvalue, hdata⟩ := h.value hmatched
    obtain rfl := Option.some.inj (hvalue.symm.trans htarget)
    exact hdata
  · exact h.groups groups hgroups

/-- There is something to take apart, whatever the pattern demands. -/
theorem Delivers.target {extraction : Extraction} (h : extraction.Delivers)
    (hmatched : extraction.matched) (shape : Shape) :
    ∃ target, extraction.target shape = .ok target := by
  obtain ⟨value, hvalue, -⟩ := h.value hmatched
  cases hgroups : extraction.groups with
  | none => exact ⟨value, by simp [Extraction.target, hgroups, hvalue]⟩
  | some groups => cases groups <;> cases shape <;> simp [Extraction.target, hgroups, hvalue]

end Extraction

/-- Whatever the expression finds, the engine delivers it. -/
theorem Regex.Engine.delivers_extract (engine : Regex.Engine) (subject : Value) :
    (engine.extract subject).Delivers := by
  cases subject with
  | text s =>
    rw [extract]
    cases engine.execute s with
    | none => exact Extraction.delivers_rejected
    | some captures =>
      refine ⟨fun _ => ⟨captures.record, rfl, captures.isData_record⟩, fun groups hgroups => ?_⟩
      obtain rfl := Option.some.inj hgroups
      exact .sequence captures.isData_groups
  | _ => exact Extraction.delivers_rejected

namespace Extractor

/-- What the extractor reports about data is as patterns rely on it. -/
def KeepsContract (source : Extractor) : Prop :=
  ∀ subject : Value, subject.IsData → (source.extract subject).Delivers

theorem keepsContract_ofKind (kind : Kind) : (ofKind kind).KeepsContract := by
  intro subject hdata
  simp only [ofKind]
  split
  · exact Extraction.delivers_produced hdata
  · exact Extraction.delivers_rejected

end Extractor

/-- The function of the predicate never fails. -/
def Predicate.NeverFails (test : Predicate) : Prop :=
  ∀ subject scope, ∃ value, test.call subject scope = .ok value

namespace Pattern

/-- The extension of the node behaves, if it calls one. -/
def Behaves : Pattern → Prop
  | .predicate test => test.NeverFails
  | .extractor source _ => source.KeepsContract
  | _ => True

/-! ## One node -/

/-- A node that behaves hands on data. -/
theorem Behaves.handsOn {p : Pattern} (h : p.Behaves) : p.HandsOn Value.IsData := by
  cases p with
  | extractor source inner =>
    exact fun subject hdata hmatched target => (h subject hdata).offers hmatched
  | regex engine inner =>
    exact fun subject _ hmatched target => (engine.delivers_extract subject).offers hmatched
  | _ => trivial

theorem innerPlan_ok {name : String} {inner : Option Pattern} {extraction : Extraction}
    (h : extraction.Delivers) : ∃ plan, innerPlan name inner extraction = .ok plan := by
  unfold innerPlan
  split
  · next hmatched =>
    cases inner with
    | none => exact ⟨_, rfl⟩
    | some p =>
      obtain ⟨target, htarget⟩ := h.target hmatched p.shape
      dsimp only
      rw [htarget]
      exact ⟨_, rfl⟩
  · exact ⟨_, rfl⟩

/-- A node that behaves has a plan for data. -/
theorem plan_ok {p : Pattern} (h : p.Behaves) (scope : Scope) {subject : Value}
    (hdata : subject.IsData) : ∃ plan, p.plan scope subject = .ok plan := by
  cases p with
  | sequence elements rest | mapping fields rest => cases subject <;> exact ⟨_, rfl⟩
  | predicate test =>
    obtain ⟨value, hvalue⟩ := h subject scope
    rw [plan, hvalue]
    exact ⟨_, rfl⟩
  | extractor source inner => exact innerPlan_ok (h subject hdata)
  | regex engine inner => exact innerPlan_ok (engine.delivers_extract subject)
  | _ => exact ⟨_, rfl⟩

/-! ## All nodes -/

theorem result_readEvery_ok {scope : Scope} {site : Site} {tasks : List Task}
    (h : ∀ task ∈ tasks, ∃ found, task.result scope = .ok found)
    (left : Option (List (String × Value))) :
    ∃ found, (Plan.readEvery scope site tasks (pure left)).result = .ok found := by
  induction tasks with
  | nil => exact ⟨left, rfl⟩
  | cons task rest ih =>
    rw [List.forall_mem_cons] at h
    obtain ⟨first, hfirst⟩ := h.1
    obtain ⟨others, hothers⟩ := ih h.2
    rw [Plan.readEvery, Reading.both, Run.result_bind, Task.result_read, hfirst]
    cases first with
    | none => exact ⟨none, rfl⟩
    | some pairs =>
      refine ⟨others.map (pairs ++ ·), ?_⟩
      show (Option.map (pairs ++ ·) <$> Plan.readEvery scope site rest (pure left)).result = _
      rw [Run.result_map, hothers]
      rfl

theorem result_readFirst_ok {scope : Scope} {site : Site} {tasks : List Task}
    (h : ∀ task ∈ tasks, ∃ found, task.result scope = .ok found) :
    ∃ found, (Plan.readFirst scope site tasks).result = .ok found := by
  induction tasks with
  | nil => exact ⟨none, rfl⟩
  | cons task rest ih =>
    rw [List.forall_mem_cons] at h
    obtain ⟨first, hfirst⟩ := h.1
    rw [Plan.readFirst, Reading.either, Run.result_bind, Task.result_read, hfirst]
    cases first with
    | none => exact ih h.2
    | some pairs => exact ⟨some pairs, rfl⟩

/-- A pattern whose nodes all behave does not fail on data. -/
theorem read_ok {p : Pattern} (h : p.Everywhere Behaves) (scope : Scope) (site : Site)
    {subject : Value} (hdata : subject.IsData) :
    ∃ found, (p.read scope site subject).result = .ok found := by
  induction p using partsInduction generalizing site subject with
  | node p ih =>
    obtain ⟨plan, hplan⟩ := plan_ok h.root scope hdata
    -- parts may be handed another value than the subject, but it is data again
    have hcarries := plan_carries Value.inherited_isData h.root.handsOn hdata hplan
    have htasks : ∀ task ∈ plan.tasks, ∃ found, task.result scope = .ok found := by
      intro task htask
      have hpart := mem_parts_of_mem_tasks hplan htask
      exact ih task.part hpart (h.part hpart) _ (hcarries.tasks task htask)
    rw [read_eq, Run.result_bind]
    show ∃ found, (p.plan scope subject >>= fun plan => (plan.read scope site).result) = .ok found
    rw [hplan]
    cases plan with
    | every tasks left => exact result_readEvery_ok htasks left
    | first tasks => exact result_readFirst_ok htasks

end Pattern

/-- A compiled pattern whose nodes all behave matches data or does not match it. -/
theorem Compiled.outcome_ok {c : Compiled} (h : c.pattern.Everywhere Pattern.Behaves)
    {subject : Value} (hdata : subject.IsData) (scope : Scope) (site : Site) :
    ∃ outcome, (c.matchIn subject scope site).result = .ok outcome := by
  obtain ⟨found, hfound⟩ := Pattern.read_ok h scope site hdata
  rw [← c.matchIn_reads, Run.result_map, map_eq_ok] at hfound
  obtain ⟨outcome, houtcome, -⟩ := hfound
  exact ⟨outcome, houtcome⟩

end Destructure
