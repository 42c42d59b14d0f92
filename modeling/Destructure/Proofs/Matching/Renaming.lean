import Destructure.Proofs.Matching.Accumulator
import Destructure.Proofs.Matching.Visits
import Destructure.Proofs.Pattern.Renaming

set_option autoImplicit false

/-! # Matching under other names

No node of a pattern looks at the names that others bind, so its plan under other names is its plan
with the names replaced (`Pattern.plan_rename`), and so is what the pattern reads
(`Pattern.read_rename`). The accumulator of a match does look at names; but a compiled pattern matches
as it reads, and a pattern compiles under other names if these are different where the old ones were
(`Pattern.compile_rename`). -/

namespace Destructure

/-- The pairs under other names. -/
def renamePairs (r : String → String) (pairs : List (String × Value)) : List (String × Value) :=
  pairs.map (Prod.map r id)

/-! ## Readings under other names -/

namespace Reading

variable (r : String → String)

/-- The reading under other names. -/
def rename (reading : Reading) : Reading := Option.map (renamePairs r) <$> reading

theorem rename_both (first second : Reading) :
    (first.both second).rename r = (first.rename r).both (second.rename r) := by
  rw [rename, both, map_bind, rename, both, bind_map_left]
  congr 1
  funext found
  cases found with
  | none => rfl
  | some pairs =>
    dsimp only [Option.map_some, rename]
    rw [Functor.map_map, Functor.map_map]
    congr 1
    funext more
    cases more <;> simp [renamePairs]

theorem rename_either (first second : Reading) :
    (first.either second).rename r = (first.rename r).either (second.rename r) := by
  rw [rename, either, map_bind, rename, either, bind_map_left]
  congr 1
  funext found
  cases found <;> rfl

end Reading

/-! ## Plans under other names -/

/-- The task of the renamed part. -/
def Task.rename (r : String → String) (task : Task) : Task :=
  { task with part := task.part.rename r }

namespace Plan

/-- The plan that leaves the same to the renamed parts. -/
def rename (r : String → String) : Plan → Plan
  | .every tasks left => .every (tasks.map (Task.rename r)) (left.map (renamePairs r))
  | .first tasks => .first (tasks.map (Task.rename r))

variable (r : String → String)

theorem rename_ofBool (condition : Bool) : (ofBool condition).rename r = ofBool condition := by
  cases condition <;> rfl

variable {r} {scope : Scope} {site : Site}

theorem readEvery_rename {tasks : List Task} {last last' : Reading} (hlast : last' = last.rename r)
    (h : ∀ task ∈ tasks, (task.rename r).read scope site = (task.read scope site).rename r) :
    readEvery scope site (tasks.map (Task.rename r)) last'
      = (readEvery scope site tasks last).rename r := by
  induction tasks with
  | nil => exact hlast
  | cons task rest ih =>
    rw [List.forall_mem_cons] at h
    rw [List.map_cons, readEvery, readEvery, Reading.rename_both, h.1, ih h.2]

theorem readFirst_rename {tasks : List Task}
    (h : ∀ task ∈ tasks, (task.rename r).read scope site = (task.read scope site).rename r) :
    readFirst scope site (tasks.map (Task.rename r)) = (readFirst scope site tasks).rename r := by
  induction tasks with
  | nil => rfl
  | cons task rest ih =>
    rw [List.forall_mem_cons] at h
    rw [List.map_cons, readFirst, readFirst, Reading.rename_either, h.1, ih h.2]

/-- A plan is followed under other names as it is followed, if its tasks are. -/
theorem read_rename {plan : Plan}
    (h : ∀ task ∈ plan.tasks, (task.rename r).read scope site = (task.read scope site).rename r) :
    (plan.rename r).read scope site = (plan.read scope site).rename r := by
  cases plan with
  | every tasks left => exact readEvery_rename rfl h
  | first tasks => exact readFirst_rename h

end Plan

/-! ## Patterns under other names -/

namespace Task

variable (r : String → String)

theorem onSame_renameAll (value : Value) (ps : List Pattern) (index : Nat) :
    onSame value (Pattern.renameAll r ps) index = (onSame value ps index).map (Task.rename r) := by
  induction ps generalizing index with
  | nil => rfl
  | cons p ps ih => rw [Pattern.renameAll, onSame, ih]; rfl

theorem onItems_renameElements (elements : List (Option Pattern)) (index : Nat)
    (items : List Value) :
    onItems (Pattern.renameElements r elements) index items
      = (onItems elements index items).map (Task.rename r) := by
  induction elements generalizing index items with
  | nil => cases items <;> rfl
  | cons element elements ih =>
    match element, items with
    | none, [] | some p, [] => rfl
    | none, item :: items => exact ih (index + 1) items
    | some p, item :: items => rw [Pattern.renameElements, onItems, ih]; rfl

theorem onEntries_renameFields (entries : List (String × Value)) (fields : List (String × Pattern))
    (index : Nat) :
    onEntries entries (Pattern.renameFields r fields) index
      = (onEntries entries fields index).map (Task.rename r) := by
  induction fields generalizing index with
  | nil => rfl
  | cons field fields ih =>
    obtain ⟨key, p⟩ := field
    rw [Pattern.renameFields, onEntries, onEntries]
    cases Entries.find? key entries with
    | none => rfl
    | some value => simp only [ih]; rfl

end Task

namespace Pattern

variable (r : String → String)

theorem leftover_rename (rest : Option String) (value : Value) :
    leftover (rest.map r) value = renamePairs r (leftover rest value) := by
  cases rest <;> rfl

theorem lengthFits_rename (elements : Nat) (rest : Option String) (items : Nat) :
    lengthFits elements (rest.map r) items = lengthFits elements rest items := by
  cases rest <;> rfl

/-- The fields keep their keys, so they find the same entries and leave the same over. -/
theorem allPresent_renameFields (fields : List (String × Pattern))
    (entries : List (String × Value)) :
    allPresent (renameFields r fields) entries = allPresent fields entries := by
  rw [allPresent, renameFields_eq_map, List.all_map]
  rfl

theorem otherEntries_renameFields (fields : List (String × Pattern))
    (entries : List (String × Value)) :
    otherEntries (renameFields r fields) entries = otherEntries fields entries := by
  rw [otherEntries, renameFields_eq_map]
  simp only [List.any_map]
  rfl

/-- The shape of an inner pattern stays, so an extraction hands it the same target. -/
theorem innerPlan_rename (name : String) (inner : Option Pattern) (extraction : Extraction) :
    innerPlan name (renameInner r inner) extraction
      = Plan.rename r <$> innerPlan name inner extraction := by
  unfold innerPlan
  split
  · cases inner with
    | none => rfl
    | some p =>
      simp only [renameInner, shape_rename]
      cases extraction.target p.shape <;> rfl
  · rfl

/-- A node under other names leaves the same to its parts. -/
theorem plan_rename (p : Pattern) (scope : Scope) (subject : Value) :
    (p.rename r).plan scope subject = Plan.rename r <$> p.plan scope subject := by
  cases p with
  | literal value =>
    show _ = Except.ok ((Plan.ofBool _).rename r)
    rw [Plan.rename_ofBool]
    rfl
  | wildcard | binder name => rfl
  | predicate test =>
    simp only [rename, plan, Functor.map_map, Plan.rename_ofBool]
  | sequence elements rest =>
    cases subject with
    | sequence items =>
      have hlength : (renameElements r elements).length = elements.length := by
        rw [renameElements_eq_map, List.length_map]
      simp only [rename, plan, hlength, lengthFits_rename, Task.onItems_renameElements,
        leftover_rename]
      split <;> rfl
    | _ => rfl
  | mapping fields rest =>
    cases subject with
    | mapping entries =>
      simp only [rename, plan, allPresent_renameFields, otherEntries_renameFields,
        Task.onEntries_renameFields, leftover_rename]
      split <;> rfl
    | _ => rfl
  | alternation branches | conjunction branches =>
    simp only [rename, plan, Task.onSame_renameAll]
    rfl
  | extractor source inner => exact innerPlan_rename r source.name inner _
  | regex engine inner => exact innerPlan_rename r engine.source inner _

theorem event?_rename (p : Pattern) (scope : Scope) (subject : Value) :
    (p.rename r).event? scope subject = p.event? scope subject := by
  cases p <;> rfl

theorem visit_rename (p : Pattern) (scope : Scope) (site : Site) (subject : Value) :
    (p.rename r).visit scope site subject = Plan.rename r <$> p.visit scope site subject := by
  refine Run.ext ?_ ?_
  · rw [Run.calls_map, visit, visit, event?_rename]
  · rw [Run.result_map]
    exact plan_rename r p scope subject

/-- A pattern reads under other names as it reads, and calls the same. -/
theorem read_rename (p : Pattern) (scope : Scope) (site : Site) (subject : Value) :
    (p.rename r).read scope site subject = (p.read scope site subject).rename r := by
  induction p using partsInduction generalizing site subject with
  | node p ih =>
    rw [read_eq, read_eq, visit_rename, bind_map_left, Reading.rename, map_bind]
    refine Run.bind_congr fun plan hplan => ?_
    refine Plan.read_rename fun task htask => ?_
    exact ih task.part (mem_parts_of_mem_tasks hplan htask) _ task.value

/-- Other names change nothing but the names, if different ones stay different: the pattern is
accepted exactly when it was, with the same depth and the renamed binders, and every match comes to
the same outcome, or the same failure, through the same calls, with the renamed names. -/
theorem compile_rename {r : String → String} (hr : Function.Injective r) (p : Pattern) :
    ((∃ c', (p.rename r).compile = .ok c') ↔ ∃ c, p.compile = .ok c) ∧
      ∀ c c', p.compile = .ok c → (p.rename r).compile = .ok c' →
        c'.depth = c.depth ∧ c'.binders = c.binders.map r ∧
          ∀ subject scope site,
            Outcome.pairs? <$> c'.matchIn subject scope site
              = Option.map (renamePairs r) <$> Outcome.pairs? <$> c.matchIn subject scope site := by
  refine ⟨exists_compile_rename_iff hr, fun c c' hc hc' => ?_⟩
  have hp : c.pattern = p := compile_eq_ok.1 hc
  have hp' : c'.pattern = p.rename r := compile_eq_ok.1 hc'
  refine ⟨?_, ?_, fun subject scope site => ?_⟩
  · rw [c'.depth_eq, c.depth_eq, hp', hp, height_rename]
  · rw [c'.binders_eq, c.binders_eq, hp', hp, declared_rename]
  · rw [c'.matchIn_reads, c.matchIn_reads, hp', hp, read_rename]
    rfl

theorem compile_rename_besideNull :
    ∃ c', (Compiled.besideNull.pattern.rename ("left." ++ ·)).compile = .ok c' ∧
      c'.binders = ["left.pair", "left.item"] ∧
        Outcome.pairs? <$> c'.matchIn (.sequence [.null, .bool true]) .root []
          = pure (some [("left.pair", .sequence [.null, .bool true]),
              ("left.item", .bool true)]) := by
  have hr : Function.Injective (("left." : String) ++ ·) :=
    fun a b h => (String.append_right_inj _).1 h
  obtain ⟨haccepted, hmatch⟩ := compile_rename hr Compiled.besideNull.pattern
  have hcompile : Compiled.besideNull.pattern.compile = .ok Compiled.besideNull :=
    compile_eq_ok.2 rfl
  obtain ⟨c', hc'⟩ := haccepted.2 ⟨_, hcompile⟩
  obtain ⟨-, hbinders, hpairs⟩ := hmatch _ c' hcompile hc'
  have hmatched : Outcome.pairs? <$> Compiled.besideNull.matchIn (.sequence [.null, .bool true])
      .root [] = pure (some [("pair", .sequence [.null, .bool true]), ("item", .bool true)]) := by
    cbv
  refine ⟨c', hc', hbinders, ?_⟩
  rw [hpairs, hmatched]
  rfl

end Pattern

end Destructure
