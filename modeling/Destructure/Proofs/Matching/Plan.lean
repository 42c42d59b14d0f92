import Destructure.Proofs.Matching.Reading

set_option autoImplicit false

/-! # One node at a time

What a node does with a subject of its own is little: it calls its extension, if it is one, and then
it leaves the rest to its parts. `Pattern.visit` is that call together with the *plan* of the node,
which says which part is to match which value, and whether all of these tasks must succeed or the
first that does decides. Reading a pattern is visiting its root and then following the plan
(`Pattern.read_eq`). -/

namespace Destructure

/-! ## Plans -/

/-- A part that is to match a value; `index` is the number of the part among the children. -/
structure Task where
  index : Nat
  part : Pattern
  value : Value

/-- What a node leaves to its parts. -/
inductive Plan where
  /-- All tasks must succeed, in their order. Then these pairs are bound as well, or, if there are
  none to speak of, the subject is rejected all the same. -/
  | every (tasks : List Task) (left : Option (List (String × Value)))
  /-- The first task that succeeds decides. -/
  | first (tasks : List Task)

namespace Task

/-- What the part makes of the value, below the node at `site`. -/
def read (task : Task) (scope : Scope) (site : Site) : Reading :=
  task.part.read scope (site ++ [task.index]) task.value

/-- What comes of the task; that does not depend on where the node stands. -/
def result (task : Task) (scope : Scope) : Except MatchError (Option (List (String × Value))) :=
  (task.read scope []).result

theorem result_read (task : Task) (scope : Scope) (site : Site) :
    (task.read scope site).result = task.result scope :=
  (task.part.read_alike scope _ _ task.value).result

/-- The tasks of parts that all get the same value, from child `index` on. -/
def onSame (value : Value) : List Pattern → Nat → List Task
  | [], _ => []
  | p :: rest, index => ⟨index, p, value⟩ :: onSame value rest (index + 1)

/-- The tasks of elements, position by position, from child `index` on; a hole has none. -/
def onItems : List (Option Pattern) → Nat → List Value → List Task
  | some p :: elements, index, item :: items => ⟨index, p, item⟩ :: onItems elements (index + 1) items
  | none :: elements, index, _ :: items => onItems elements (index + 1) items
  | _, _, _ => []

/-- The tasks of fields, from child `index` on, up to the first field without an entry. -/
def onEntries (entries : List (String × Value)) : List (String × Pattern) → Nat → List Task
  | [], _ => []
  | (key, p) :: rest, index =>
    match Entries.find? key entries with
    | none => []
    | some value => ⟨index, p, value⟩ :: onEntries entries rest (index + 1)

end Task

/-- Every field has an entry. -/
def allPresent (fields : List (String × Pattern)) (entries : List (String × Value)) : Bool :=
  fields.all fun field => (Entries.find? field.1 entries).isSome

namespace Plan

/-- Nothing matches. -/
def reject : Plan := .every [] none

/-- These pairs are bound, and nothing is left to do. -/
def bind (pairs : List (String × Value)) : Plan := .every [] (some pairs)

/-- The subject matches if the condition holds. -/
def ofBool (condition : Bool) : Plan := if condition then .bind [] else .reject

/-- The tasks, in the order in which they are tried. -/
def tasks : Plan → List Task
  | .every tasks _ => tasks
  | .first tasks => tasks

/-- Follow tasks that must all succeed, and then read `last`. -/
def readEvery (scope : Scope) (site : Site) : List Task → Reading → Reading
  | [], last => last
  | task :: rest, last => (task.read scope site).both (readEvery scope site rest last)

/-- Follow tasks up to the first that succeeds. -/
def readFirst (scope : Scope) (site : Site) : List Task → Reading
  | [] => .rejected
  | task :: rest => (task.read scope site).either (readFirst scope site rest)

/-- Follow the plan of the node at `site`. -/
def read (plan : Plan) (scope : Scope) (site : Site) : Reading :=
  match plan with
  | .every tasks left => readEvery scope site tasks (pure left)
  | .first tasks => readFirst scope site tasks

end Plan

namespace Pattern

/-! ## The plan of a node -/

/-- The plan for what an extractor reports. -/
def innerPlan (name : String) (inner : Option Pattern) (extraction : Extraction) :
    Except MatchError Plan :=
  if extraction.matched then
    match inner with
    | none => .ok (.bind [])
    | some p =>
      match extraction.target p.shape with
      | .ok target => .ok (.every [⟨0, p, target⟩] (some []))
      | .error fault => .error (.extractorContract name fault)
  else .ok .reject

/-- What a node leaves to its parts, or the failure of its extension. -/
def plan (p : Pattern) (scope : Scope) (subject : Value) : Except MatchError Plan :=
  match p, subject with
  | .literal expected, subject => .ok (.ofBool (subject.equals expected))
  | .wildcard, _ => .ok (.bind [])
  | .binder name, subject => .ok (.bind [(name, subject)])
  | .sequence elements rest, .sequence items =>
    .ok <| if lengthFits elements.length rest items.length then
      .every (Task.onItems elements 0 items)
        (some (leftover rest (.sequence (items.drop elements.length))))
    else .reject
  | .sequence _ _, _ => .ok .reject
  | .mapping fields rest, .mapping entries =>
    .ok <| .every (Task.onEntries entries fields 0)
      (if allPresent fields entries then
        some (leftover rest (.mapping (otherEntries fields entries)))
      else none)
  | .mapping _ _, _ => .ok .reject
  | .alternation branches, subject => .ok (.first (Task.onSame subject branches 0))
  | .conjunction members, subject => .ok (.every (Task.onSame subject members 0) (some []))
  | .predicate test, subject =>
    (fun verdict => .ofBool verdict.isTruthy)
      <$> (test.call subject scope).mapError (MatchError.predicateEvaluation test.name)
  | .extractor source inner, subject => innerPlan source.name inner (source.extract subject)
  | .regex engine inner, subject => innerPlan engine.source inner (engine.extract subject)

/-- What a node calls for a subject, if it is an extension. -/
def event? (p : Pattern) (scope : Scope) (subject : Value) : Option Event :=
  match p with
  | .predicate test => some (.test test subject scope)
  | .extractor source _ => some (.extract source subject)
  | .regex engine _ => some (.search engine subject)
  | _ => none

/-- The call of the node at `site` itself, with the plan that comes of it. -/
def visit (p : Pattern) (scope : Scope) (site : Site) (subject : Value) : Run MatchError Plan :=
  ⟨((p.event? scope subject).map (Call.mk site)).toList, p.plan scope subject⟩

end Pattern

/-! ## Laws of runs and readings -/

/-- A call followed by a step that makes none. -/
theorem Run.called_bind_ofExcept {ε α β γ : Type} {call : Call} {result : Except ε α}
    {step : α → Except ε β} {next : β → Run ε γ} :
    (Run.called call result >>= fun a => Run.ofExcept (step a) >>= next)
      = Run.called call (result >>= step) >>= next := by
  rw [← bind_assoc]
  congr 1
  cases result <;> rfl

namespace Reading

theorem rejected_both (second : Reading) : rejected.both second = rejected := rfl

theorem bound_nil_both (second : Reading) : (bound []).both second = second := by
  show (Option.map ([] ++ ·)) <$> second = second
  simp only [List.nil_append, Option.map_id_fun', id_map]

theorem both_bound_nil (first : Reading) : first.both (bound []) = first := by
  conv_rhs => rw [← bind_pure first]
  rw [both]
  congr 1
  funext found
  cases found with
  | none => rfl
  | some pairs => show bound (pairs ++ []) = pure (some pairs); rw [List.append_nil, bound]

theorem both_assoc (first second third : Reading) :
    (first.both second).both third = first.both (second.both third) := by
  rw [both, both, both, bind_assoc]
  congr 1
  funext found
  cases found with
  | none => rfl
  | some pairs =>
    dsimp only
    rw [bind_map_left, both, map_bind]
    congr 1
    funext found
    cases found with
    | none => rfl
    | some more => simp [Function.comp_def, List.append_assoc]

theorem rejected_either (second : Reading) : rejected.either second = second := rfl

theorem either_rejected (first : Reading) : first.either rejected = first := by
  conv_rhs => rw [← bind_pure first]
  rw [either]
  congr 1
  funext found
  cases found <;> rfl

theorem either_assoc (first second third : Reading) :
    (first.either second).either third = first.either (second.either third) := by
  rw [either, either, either, bind_assoc]
  congr 1
  funext found
  cases found <;> rfl

end Reading

namespace Plan

variable {scope : Scope} {site : Site}

theorem readEvery_both (tasks : List Task) (last more : Reading) :
    (readEvery scope site tasks last).both more = readEvery scope site tasks (last.both more) := by
  induction tasks with
  | nil => rfl
  | cons task rest ih => rw [readEvery, readEvery, Reading.both_assoc, ih]

@[simp] theorem read_reject : reject.read scope site = .rejected := rfl

@[simp] theorem read_bind (pairs : List (String × Value)) :
    (bind pairs).read scope site = .bound pairs := rfl

@[simp] theorem tasks_ofBool (condition : Bool) : (ofBool condition).tasks = [] := by
  cases condition <;> rfl

@[simp] theorem read_ofBool (condition : Bool) :
    (ofBool condition).read scope site = .ofBool condition := by
  cases condition <;> rfl

end Plan

/-! ## Reading by visits -/

namespace Pattern

variable {scope : Scope} {site : Site}

theorem readElements_eq (elements : List (Option Pattern)) (index : Nat) (items : List Value) :
    readElements elements scope site index items
      = Plan.readEvery scope site (Task.onItems elements index items) (.bound []) := by
  induction elements generalizing index items with
  | nil => rw [readElements_nil]; cases items <;> rfl
  | cons element elements ih =>
    match element, items with
    | none, [] | some p, [] => simp only [readElements, Task.onItems, Plan.readEvery]
    | none, item :: items => rw [readElements, Task.onItems, ih]
    | some p, item :: items => rw [readElements, Task.onItems, Plan.readEvery, ih]; rfl

theorem readFields_eq (fields : List (String × Pattern)) (index : Nat)
    (entries : List (String × Value)) :
    readFields fields scope site index entries
      = Plan.readEvery scope site (Task.onEntries entries fields index)
          (if allPresent fields entries then .bound [] else .rejected) := by
  induction fields generalizing index with
  | nil => rw [readFields]; rfl
  | cons field fields ih =>
    obtain ⟨key, p⟩ := field
    rw [readFields, Task.onEntries]
    cases hvalue : Entries.find? key entries with
    | none => simp [Plan.readEvery, allPresent, hvalue]
    | some value =>
      have hpresent : allPresent ((key, p) :: fields) entries = allPresent fields entries := by
        simp [allPresent, hvalue]
      rw [hpresent, Plan.readEvery, ← ih]
      rfl

theorem readBranches_eq (branches : List Pattern) (index : Nat) (subject : Value) :
    readBranches branches scope site index subject
      = Plan.readFirst scope site (Task.onSame subject branches index) := by
  induction branches generalizing index with
  | nil => rw [readBranches]; rfl
  | cons p branches ih => rw [readBranches, Task.onSame, Plan.readFirst, ih]; rfl

theorem readMembers_eq (members : List Pattern) (index : Nat) (subject : Value) :
    readMembers members scope site index subject
      = Plan.readEvery scope site (Task.onSame subject members index) (.bound []) := by
  induction members generalizing index with
  | nil => rw [readMembers]; rfl
  | cons p members ih => rw [readMembers, Task.onSame, Plan.readEvery, ih]; rfl

theorem readInner_eq (inner : Option Pattern) (name : String) (extraction : Extraction) :
    readInner inner scope site name extraction
      = Run.ofExcept (innerPlan name inner extraction) >>= fun plan => plan.read scope site := by
  rw [readInner.eq_def]
  unfold innerPlan
  split
  · cases inner with
    | none => rfl
    | some p =>
      dsimp only
      cases extraction.target p.shape with
      | error fault => rfl
      | ok target => exact (Reading.both_bound_nil _).symm
  · rfl

theorem read_sequence_eq (elements : List (Option Pattern)) (rest : Option String)
    (subject : Value) :
    (sequence elements rest).read scope site subject
      = (sequence elements rest).visit scope site subject >>= fun plan => plan.read scope site := by
  cases subject with
  | sequence items =>
    rw [read, readElements_eq, Plan.readEvery_both, Reading.bound_nil_both]
    simp only [visit, plan]
    split <;> rfl
  | _ => simp only [read]; rfl

theorem read_mapping_eq (fields : List (String × Pattern)) (rest : Option String)
    (subject : Value) :
    (mapping fields rest).read scope site subject
      = (mapping fields rest).visit scope site subject >>= fun plan => plan.read scope site := by
  cases subject with
  | mapping entries =>
    rw [read, readFields_eq, Plan.readEvery_both]
    show _ = Plan.readEvery scope site _ (pure (if _ then _ else _))
    split
    · rw [Reading.bound_nil_both]; rfl
    · rw [Reading.rejected_both]; rfl
  | _ => simp only [read]; rfl

/-- A pattern is read by visiting its root and following the plan of that. -/
theorem read_eq (p : Pattern) (scope : Scope) (site : Site) (subject : Value) :
    p.read scope site subject
      = p.visit scope site subject >>= fun plan => plan.read scope site := by
  cases p with
  | literal value => rw [read]; exact (Plan.read_ofBool _).symm
  | wildcard => rw [read]; rfl
  | binder name => rw [read]; rfl
  | sequence elements rest => exact read_sequence_eq elements rest subject
  | mapping fields rest => exact read_mapping_eq fields rest subject
  | alternation branches => rw [read, readBranches_eq]; rfl
  | conjunction members => rw [read, readMembers_eq]; rfl
  | predicate test =>
    have hread (condition : Bool) : Reading.ofBool condition
        = (Plan.ofBool condition).read scope site := (Plan.read_ofBool condition).symm
    rw [read]
    simp only [hread]
    cases h : (test.call subject scope).mapError (MatchError.predicateEvaluation test.name) with
    | error e => simp only [visit, plan, h]; rfl
    | ok verdict => simp only [visit, plan, h]; rfl
  | extractor source inner =>
    rw [read]
    simp only [readInner_eq, Run.called_bind_ofExcept]
    rfl
  | regex engine inner =>
    rw [read]
    simp only [readInner_eq, Run.called_bind_ofExcept]
    rfl

end Pattern

end Destructure
