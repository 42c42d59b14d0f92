import Destructure.Proofs.CallOrder
import Destructure.Proofs.Matching.Plan

set_option autoImplicit false

/-! # The nodes that a match visits

A plan stops at the first decisive task. `Plan.tried` are the tasks up to that one, and the calls of a
reading are the call of the root followed by those of the tasks that are tried
(`Pattern.calls_read`). So a match visits every node at most once, and `Pattern.handed` is the value
that it hands to a node, if it comes to it: what is called below a node is what the node calls for
that value (`Pattern.calls_below`). -/

namespace Destructure

/-! ## Tasks that are tried -/

namespace Reading

/-- The second part is tried when the first one matches. -/
theorem calls_both (first second : Reading) : (first.both second).calls = first.calls ++
    match first.result with
    | .ok (some _) => second.calls
    | _ => [] := by
  rw [both]
  cases h : first.result with
  | error e => rw [Run.calls_bind_of_error h, List.append_nil]
  | ok found =>
    rw [Run.calls_bind_of_ok h]
    cases found with
    | none => rfl
    | some pairs => simp

/-- The second branch is tried when the first one does not match. -/
theorem calls_either (first second : Reading) : (first.either second).calls = first.calls ++
    match first.result with
    | .ok none => second.calls
    | _ => [] := by
  rw [either]
  cases h : first.result with
  | error e => rw [Run.calls_bind_of_error h, List.append_nil]
  | ok found =>
    rw [Run.calls_bind_of_ok h]
    cases found <;> rfl

end Reading

namespace Task

/-- The part matches the value. -/
def succeeds (task : Task) (scope : Scope) : Bool :=
  match task.result scope with
  | .ok (some _) => true
  | _ => false

/-- The part does not match the value. -/
def rejects (task : Task) (scope : Scope) : Bool :=
  match task.result scope with
  | .ok none => true
  | _ => false

end Task

namespace Plan

variable {scope : Scope} {site : Site}

/-- The tasks that are tried: up to the first that does not succeed, where all must, and otherwise up
to the first that does. A task that fails is the last in either case. -/
def tried (plan : Plan) (scope : Scope) : List Task :=
  match plan with
  | .every tasks _ => upTo (·.succeeds scope) tasks
  | .first tasks => upTo (·.rejects scope) tasks

theorem prefix_tried (plan : Plan) (scope : Scope) : plan.tried scope <+: plan.tasks := by
  cases plan with
  | every tasks left => exact prefix_upTo _ tasks
  | first tasks => exact prefix_upTo _ tasks

theorem calls_readEvery (tasks : List Task) {last : Reading} (hlast : last.calls = []) :
    (readEvery scope site tasks last).calls
      = (upTo (·.succeeds scope) tasks).flatMap fun task => (task.read scope site).calls := by
  induction tasks with
  | nil => exact hlast
  | cons task rest ih =>
    rw [readEvery, Reading.calls_both, ih, upTo, Task.result_read]
    unfold Task.succeeds
    rcases task.result scope with e | (_ | pairs) <;> simp

theorem calls_readFirst (tasks : List Task) :
    (readFirst scope site tasks).calls
      = (upTo (·.rejects scope) tasks).flatMap fun task => (task.read scope site).calls := by
  induction tasks with
  | nil => rfl
  | cons task rest ih =>
    rw [readFirst, Reading.calls_either, ih, upTo, Task.result_read]
    unfold Task.rejects
    rcases task.result scope with e | (_ | pairs) <;> simp

theorem calls_read (plan : Plan) : (plan.read scope site).calls
    = (plan.tried scope).flatMap fun task => (task.read scope site).calls := by
  cases plan with
  | every tasks left => exact calls_readEvery tasks rfl
  | first tasks => exact calls_readFirst tasks

end Plan

namespace Pattern

/-- The tasks that a node leaves to its parts and that are tried. -/
def tried (p : Pattern) (scope : Scope) (subject : Value) : List Task :=
  match p.plan scope subject with
  | .ok plan => plan.tried scope
  | .error _ => []

/-- A node makes its own call first, and then its parts make theirs, task by task. -/
theorem calls_read (p : Pattern) (scope : Scope) (site : Site) (subject : Value) :
    (p.read scope site subject).calls = ((p.event? scope subject).map (Call.mk site)).toList
      ++ (p.tried scope subject).flatMap fun task => (task.read scope site).calls := by
  rw [read_eq, tried]
  cases h : p.plan scope subject with
  | error e => rw [Run.calls_bind_of_error h, List.flatMap_nil, List.append_nil]; rfl
  | ok plan => rw [Run.calls_bind_of_ok h, Plan.calls_read]; rfl

/-! ## Tasks and children -/

/-- The children that are patterns, with their numbers, from number `index` on. -/
def numbered : List (Option Pattern) → Nat → List (Nat × Pattern)
  | [], _ => []
  | none :: rest, index => numbered rest (index + 1)
  | some p :: rest, index => (index, p) :: numbered rest (index + 1)

/-- The parts of a node with their numbers among the children. -/
def numberedParts (p : Pattern) : List (Nat × Pattern) := numbered p.children 0

theorem mem_numbered {children : List (Option Pattern)} {index i : Nat} {q : Pattern} :
    (i, q) ∈ numbered children index ↔ index ≤ i ∧ children[i - index]? = some (some q) := by
  induction children generalizing index with
  | nil => simp [numbered]
  | cons child rest ih =>
    have hstep : (index + 1 ≤ i ∧ rest[i - (index + 1)]? = some (some q)) ↔
        index < i ∧ (child :: rest)[i - index]? = some (some q) := by
      refine and_congr_right fun hlt => ?_
      obtain ⟨n, hn⟩ : ∃ n, i - index = n + 1 := ⟨i - index - 1, by omega⟩
      rw [hn, List.getElem?_cons_succ, show i - (index + 1) = n by omega]
    have hsplit : (index ≤ i ∧ (child :: rest)[i - index]? = some (some q)) ↔
        i = index ∧ child = some q ∨ index < i ∧ (child :: rest)[i - index]? = some (some q) := by
      rcases Nat.lt_trichotomy i index with hlt | rfl | hgt
      · constructor <;> omega
      · simp
      · simp [hgt, hgt.le, hgt.ne']
    rw [hsplit, ← hstep, ← ih]
    cases child with
    | none => simp [numbered]
    | some p => simp [numbered, eq_comm]

theorem mem_numberedParts {p q : Pattern} {i : Nat} :
    (i, q) ∈ p.numberedParts ↔ p.children[i]? = some (some q) := by
  simp [numberedParts, mem_numbered]

theorem pairwise_numbered (children : List (Option Pattern)) (index : Nat) :
    (numbered children index).Pairwise fun a b => a.1 < b.1 := by
  induction children generalizing index with
  | nil => exact .nil
  | cons child rest ih =>
    cases child with
    | none => exact ih (index + 1)
    | some p =>
      refine .cons (fun entry hentry => ?_) (ih (index + 1))
      exact (mem_numbered.1 hentry).1

theorem map_onSame (ps : List Pattern) (index : Nat) (value : Value) :
    (Task.onSame value ps index).map (fun task => (task.index, task.part))
      = numbered (ps.map some) index := by
  induction ps generalizing index with
  | nil => rfl
  | cons p ps ih => simp [Task.onSame, numbered, ih]

theorem map_onItems_sublist (elements : List (Option Pattern)) (index : Nat) (items : List Value) :
    ((Task.onItems elements index items).map fun task => (task.index, task.part)).Sublist
      (numbered elements index) := by
  induction elements generalizing index items with
  | nil => cases items <;> exact List.Sublist.refl _
  | cons element elements ih =>
    match element, items with
    | none, [] | some p, [] => exact List.nil_sublist _
    | none, item :: items => exact ih (index + 1) items
    | some p, item :: items => exact (ih (index + 1) items).cons_cons _

theorem map_onEntries_sublist (entries : List (String × Value)) (fields : List (String × Pattern))
    (index : Nat) :
    ((Task.onEntries entries fields index).map fun task => (task.index, task.part)).Sublist
      (numbered (fields.map fun field => some field.2) index) := by
  induction fields generalizing index with
  | nil => exact List.Sublist.refl _
  | cons field fields ih =>
    obtain ⟨key, p⟩ := field
    rw [Task.onEntries]
    cases Entries.find? key entries with
    | none => exact List.nil_sublist _
    | some value => exact (ih (index + 1)).cons_cons _

theorem tasks_innerPlan_sublist {name : String} {inner : Option Pattern} {extraction : Extraction}
    {plan : Plan} (h : innerPlan name inner extraction = .ok plan) :
    (plan.tasks.map fun task => (task.index, task.part)).Sublist
      (numbered (inner.toList.map some) 0) := by
  unfold innerPlan at h
  split at h
  · cases inner with
    | none =>
      obtain rfl := Except.ok.inj h
      exact List.nil_sublist _
    | some p =>
      dsimp only at h
      split at h
      · obtain rfl := Except.ok.inj h
        exact List.Sublist.refl _
      · cases h
  · obtain rfl := Except.ok.inj h
    exact List.nil_sublist _

/-- A plan leaves to each part one task at most, in the order of the parts. -/
theorem tasks_sublist {p : Pattern} {scope : Scope} {subject : Value} {plan : Plan}
    (h : p.plan scope subject = .ok plan) :
    (plan.tasks.map fun task => (task.index, task.part)).Sublist p.numberedParts := by
  cases p with
  | literal value =>
    obtain rfl := Except.ok.inj h
    rw [Plan.tasks_ofBool]
    exact List.nil_sublist _
  | predicate test =>
    obtain ⟨verdict, -, rfl⟩ := map_eq_ok.1 h
    rw [Plan.tasks_ofBool]
    exact List.nil_sublist _
  | wildcard | binder name =>
    obtain rfl := Except.ok.inj h
    exact List.nil_sublist _
  | sequence elements rest =>
    cases subject with
    | sequence items =>
      obtain rfl := Except.ok.inj h
      split
      · exact map_onItems_sublist elements 0 items
      · exact List.nil_sublist _
    | _ =>
      obtain rfl := Except.ok.inj h
      exact List.nil_sublist _
  | mapping fields rest =>
    cases subject with
    | mapping entries =>
      obtain rfl := Except.ok.inj h
      exact map_onEntries_sublist entries fields 0
    | _ =>
      obtain rfl := Except.ok.inj h
      exact List.nil_sublist _
  | alternation ps | conjunction ps =>
    obtain rfl := Except.ok.inj h
    exact (map_onSame ps 0 subject) ▸ List.Sublist.refl _
  | extractor source inner => exact tasks_innerPlan_sublist h
  | regex engine inner => exact tasks_innerPlan_sublist h

theorem mem_parts_of_mem_tasks {p : Pattern} {scope : Scope} {subject : Value} {plan : Plan}
    {task : Task} (h : p.plan scope subject = .ok plan) (htask : task ∈ plan.tasks) :
    task.part ∈ p.parts :=
  mem_parts_of_getElem? (mem_numberedParts.1 ((tasks_sublist h).subset (List.mem_map_of_mem htask)))

/-- The tasks that are tried belong to parts of the node, in their order and no part twice. -/
theorem tried_sublist (p : Pattern) (scope : Scope) (subject : Value) :
    ((p.tried scope subject).map fun task => (task.index, task.part)).Sublist p.numberedParts := by
  rw [tried]
  cases h : p.plan scope subject with
  | error e => exact List.nil_sublist _
  | ok plan => exact ((plan.prefix_tried scope).sublist.map _).trans (tasks_sublist h)

/-- No part is tried twice. -/
theorem nodup_tried_indices (p : Pattern) (scope : Scope) (subject : Value) :
    ((p.tried scope subject).map (·.index)).Nodup := by
  have hpairs := (pairwise_numbered p.children 0).sublist (p.tried_sublist scope subject)
  rw [List.pairwise_map] at hpairs
  exact List.pairwise_map.2 (hpairs.imp fun hlt => hlt.ne)

theorem children_of_tried {p : Pattern} {scope : Scope} {subject : Value} {task : Task}
    (h : task ∈ p.tried scope subject) : p.children[task.index]? = some (some task.part) :=
  mem_numberedParts.1 ((p.tried_sublist scope subject).subset (List.mem_map_of_mem h))

/-! ## Values that are handed to nodes -/

/-- The value that a match hands to the node at a site, if the match comes to that node. -/
def handed (p : Pattern) (scope : Scope) (subject : Value) (site : Site) : Option Value :=
  match site with
  | [] => some subject
  | i :: site =>
    ((p.tried scope subject).find? (·.index = i)).bind fun task =>
      task.part.handed scope task.value site

@[simp] theorem handed_nil (p : Pattern) (scope : Scope) (subject : Value) :
    p.handed scope subject [] = some subject := rfl

/-- A task that is tried hands its value to its part. -/
theorem handed_cons {p : Pattern} {scope : Scope} {subject : Value} {task : Task}
    (h : task ∈ p.tried scope subject) (site : Site) :
    p.handed scope subject (task.index :: site) = task.part.handed scope task.value site := by
  rw [handed]
  cases hfind : (p.tried scope subject).find? (·.index = task.index) with
  | none => exact absurd (List.find?_eq_none.1 hfind task h) (by simp)
  | some found =>
    have hindex : found.index = task.index := by simpa using List.find?_some hfind
    -- there is one task at most for each part
    obtain rfl : found = task := List.inj_on_of_nodup_map (p.nodup_tried_indices scope subject)
      (List.mem_of_find?_eq_some hfind) h hindex
    rfl

theorem handed_cons_eq_none {p : Pattern} {scope : Scope} {subject : Value} {i : Nat}
    (h : ∀ task ∈ p.tried scope subject, task.index ≠ i) (site : Site) :
    p.handed scope subject (i :: site) = none := by
  rw [handed, List.find?_eq_none.2 (by simpa using h)]
  rfl

/-! ## Calls below a node -/

/-- All calls of a match are made at or below its site. -/
theorem site_prefix_of_mem_calls {p : Pattern} {scope : Scope} {site : Site} {subject : Value}
    {call : Call} (h : call ∈ (p.read scope site subject).calls) : site <+: call.site := by
  induction p using partsInduction generalizing site subject with
  | node p ih =>
    rw [calls_read, List.mem_append, List.mem_flatMap] at h
    rcases h with hown | ⟨task, htask, hcall⟩
    · obtain ⟨event, -, rfl⟩ := Option.map_eq_some_iff.1 (Option.mem_toList.1 hown)
      exact List.prefix_refl site
    · have hpart := mem_parts_of_getElem? (children_of_tried htask)
      exact (List.prefix_append site _).trans (ih task.part hpart hcall)

/-- The calls at or below a site. -/
def callsBelow (calls : List Call) (site : Site) : List Call :=
  calls.filter fun call => site.isPrefixOf call.site

theorem mem_callsBelow {calls : List Call} {site : Site} {call : Call} :
    call ∈ callsBelow calls site ↔ call ∈ calls ∧ site <+: call.site := by
  rw [callsBelow, List.mem_filter, List.isPrefixOf_iff_prefix]

/-- The calls of a task lie below its part, so none of them lies below another child. -/
theorem callsBelow_task_of_ne {task : Task} {scope : Scope} {site : Site} {i : Nat} {s : Site}
    (h : task.index ≠ i) : callsBelow (task.read scope site).calls (site ++ i :: s) = [] := by
  refine List.eq_nil_iff_forall_not_mem.2 fun call hcall => ?_
  obtain ⟨hmem, t, ht⟩ := mem_callsBelow.1 hcall
  obtain ⟨u, hu⟩ := site_prefix_of_mem_calls hmem
  rw [← hu, List.append_assoc, List.append_assoc, List.append_cancel_left_eq] at ht
  exact h (List.cons.inj ht).1.symm

/-- Of several tasks only that of child `i` makes calls below child `i`. -/
theorem callsBelow_tasks {tasks : List Task} (hnodup : (tasks.map (·.index)).Nodup) (scope : Scope)
    (site : Site) (i : Nat) (s : Site) :
    callsBelow (tasks.flatMap fun task => (task.read scope site).calls) (site ++ i :: s)
      = match tasks.find? (·.index = i) with
        | some task => callsBelow (task.read scope site).calls (site ++ i :: s)
        | none => [] := by
  induction tasks with
  | nil => rfl
  | cons task rest ih =>
    rw [List.map_cons, List.nodup_cons] at hnodup
    have happend : callsBelow ((task :: rest).flatMap fun task => (task.read scope site).calls)
          (site ++ i :: s)
        = callsBelow (task.read scope site).calls (site ++ i :: s)
          ++ callsBelow (rest.flatMap fun task => (task.read scope site).calls) (site ++ i :: s) := by
      rw [List.flatMap_cons, callsBelow, List.filter_append]
      rfl
    rw [happend, ih hnodup.2]
    by_cases hi : task.index = i
    · have hrest : rest.find? (·.index = i) = none := by
        refine List.find?_eq_none.2 fun other hother hindex => hnodup.1 ?_
        exact List.mem_map.2 ⟨other, hother, (of_decide_eq_true hindex).trans hi.symm⟩
      rw [hrest, List.find?_cons_of_pos (by simpa using hi), List.append_nil]
    · rw [callsBelow_task_of_ne hi, List.find?_cons_of_neg (by simpa using hi), List.nil_append]

/-- Below a node a match calls what the node calls for the value that is handed to it. -/
theorem calls_below {p q : Pattern} {s : Site} (hq : p.node? s = some q) (scope : Scope)
    (site : Site) (subject : Value) :
    callsBelow (p.read scope site subject).calls (site ++ s)
      = match p.handed scope subject s with
        | some value => (q.read scope (site ++ s) value).calls
        | none => [] := by
  induction s generalizing p site subject with
  | nil =>
    obtain rfl : p = q := by simpa using hq
    rw [List.append_nil, handed_nil, callsBelow, List.filter_eq_self]
    exact fun call hcall => List.isPrefixOf_iff_prefix.2 (site_prefix_of_mem_calls hcall)
  | cons i s ih =>
    obtain ⟨c, hc, hq⟩ := node?_cons.1 hq
    have hown : callsBelow ((p.event? scope subject).map (Call.mk site)).toList (site ++ i :: s)
        = [] := by
      -- the own call of the node is made above its children
      refine List.eq_nil_iff_forall_not_mem.2 fun call hcall => ?_
      obtain ⟨hmem, hprefix⟩ := mem_callsBelow.1 hcall
      obtain ⟨event, -, rfl⟩ := Option.map_eq_some_iff.1 (Option.mem_toList.1 hmem)
      have hlength := hprefix.length_le
      simp at hlength
    rw [calls_read, callsBelow, List.filter_append]
    show callsBelow _ _ ++ callsBelow _ _ = _
    rw [hown, List.nil_append, callsBelow_tasks (p.nodup_tried_indices scope subject), handed]
    cases hfind : (p.tried scope subject).find? (·.index = i) with
    | none => rfl
    | some task =>
      obtain rfl : task.index = i := by simpa using List.find?_some hfind
      have hpart := children_of_tried (List.mem_of_find?_eq_some hfind)
      obtain rfl : task.part = c := by simpa using hpart.symm.trans hc
      have hbelow := ih hq (site ++ [task.index]) task.value
      rw [List.append_assoc, List.singleton_append] at hbelow
      exact hbelow

end Pattern

end Destructure
