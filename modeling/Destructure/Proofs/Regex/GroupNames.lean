import Destructure.Proofs.Run
import Destructure.Regex.Reader
import Mathlib.Data.List.Nodup

set_option autoImplicit false

/-! # Group names

An expression is refused when it names a group twice. The reader goes through it in small steps, and
only the entry of a named group adds to the names: a name that is new (`Work.NamesStep`). So no
expression that is read names a group twice (`readExpr_namesOnce`). -/

namespace Destructure.Regex

/-! ## What a step of reading comes to -/

namespace Scan

variable {α β : Type}

/-- Whatever the step comes to has the property, unless it fails. -/
def Yields (P : α → Prop) (scan : Scan α) : Prop :=
  ∀ cursor a after, scan.run cursor = .ok (a, after) → P a

namespace Yields

variable {P : α → Prop} {Q : β → Prop}

theorem pure {a : α} (h : P a) : Yields P (pure a) := by
  intro cursor b after hrun
  cases hrun
  exact h

theorem fail (fault : Fault) : Yields P (fail fault) := by
  intro cursor a after hrun
  cases hrun

theorem bind {scan : Scan α} {next : α → Scan β} (h : Yields P scan)
    (hnext : ∀ a, P a → Yields Q (next a)) : Yields Q (scan >>= next) := by
  intro cursor b after hrun
  rw [StateT.run_bind, bind_eq_ok] at hrun
  obtain ⟨⟨a, middle⟩, hscan, hrest⟩ := hrun
  exact hnext a (h cursor a middle hscan) middle b after hrest

/-- What a step hands on does not matter, if the property holds after it anyway. -/
theorem after {scan : Scan α} {next : α → Scan β} (h : ∀ a, Yields Q (next a)) :
    Yields Q (scan >>= next) :=
  bind (P := fun _ => True) (fun _ _ _ _ => trivial) fun a _ => h a

/-- A check goes on only where it does not fail. -/
theorem check {condition : Bool} {fault : Fault} {next : Unit → Scan α}
    (h : condition = false → Yields P (next ())) :
    Yields P (if condition then Scan.fail fault >>= next else next ()) := by
  cases condition with
  | false => exact h rfl
  | true => exact bind (P := fun _ => False) (Yields.fail fault) fun _ hfalse => hfalse.elim

end Yields

end Scan

open Scan

/-! ## Steps of the reader -/

/-- The names of the groups that were entered are different. -/
def Work.NamesOnce (work : Work) : Prop := (work.names.map (·.2)).Nodup

/-- What a step does to the names: nothing, or it adds one that is new. -/
inductive Work.NamesStep (work next : Work) : Prop
  | same (h : next.names = work.names)
  | added (index : Nat) (name : String) (hnew : name ∉ work.names.map (·.2))
    (h : next.names = work.names ++ [(index, name)])

/-- No step names a group twice. -/
theorem Work.NamesStep.namesOnce {work next : Work} (h : work.NamesStep next)
    (hwork : work.NamesOnce) : next.NamesOnce := by
  rw [Work.NamesOnce] at hwork ⊢
  cases h with
  | same h => rwa [h]
  | added index name hnew h =>
    rw [h, List.map_append]
    exact List.Nodup.append hwork (List.nodup_singleton name) (by simpa using hnew)

theorem openGroup_names (work : Work) : Yields work.NamesStep (openGroup work) := by
  unfold openGroup
  dsimp only
  -- nine steps to tell whether this is a look-around
  iterate 9 refine .after fun _ => ?_
  refine .check fun _ => .after fun _ => ?_
  split <;> refine .after fun named => ?_ <;> split
  case isTrue.isTrue | isFalse.isTrue =>
    -- a named group
    refine .after fun name => .check fun hnew => .pure (.added _ name ?_ rfl)
    simp only [List.any_eq_false, beq_iff_eq] at hnew
    intro hname
    obtain ⟨group, hgroup, rfl⟩ := List.mem_map.1 hname
    exact hnew group hgroup rfl
  case isTrue.isFalse | isFalse.isFalse =>
    refine .after fun _ => ?_
    split
    · -- flags, alone or with a group
      iterate 5 refine .after fun _ => ?_
      split
      · exact .check fun _ => .pure (.same rfl)
      · exact .pure (.same rfl)
    · exact .pure (.same rfl)

theorem closeGroup_names (work : Work) : Yields work.NamesStep (closeGroup work) := by
  unfold closeGroup
  split
  · exact .fail _
  · exact .after fun _ => .after fun _ => .pure (.same rfl)

theorem plainRepetition_names (work : Work) (min : Nat) (max : Option Nat) :
    Yields work.NamesStep (plainRepetition work min max) := by
  unfold plainRepetition
  exact .after fun _ => .after fun _ => .after fun _ => .pure (.same rfl)

theorem countedRepetition_names (work : Work) :
    Yields work.NamesStep (countedRepetition work) := by
  unfold countedRepetition
  dsimp only
  -- however the bounds are read, it ends with a repetition
  repeat' first
    | split
    | refine .after fun _ => ?_
    | exact .pure (.same rfl)

/-! ## The whole expression -/

theorem readLoop_namesOnce (fuel : Nat) {work : Work} (h : work.NamesOnce) :
    Yields Work.NamesOnce (readLoop fuel work) := by
  induction fuel generalizing work with
  | zero => exact .pure h
  | succ fuel ih =>
    have hstep : ∀ step : Scan Work, Yields work.NamesStep step →
        Yields Work.NamesOnce (step >>= readLoop fuel) :=
      fun step hnames => hnames.bind fun next hnext => ih (hnext.namesOnce h)
    have hlevel (level : Level) : Yields Work.NamesOnce (readLoop fuel { work with level }) := ih h
    rw [readLoop]
    refine .after fun _ => .after fun c => ?_
    split
    · exact .pure h
    · exact hstep _ (openGroup_names work)
    · exact hstep _ (closeGroup_names work)
    · exact .after fun _ => hlevel _
    · exact .after fun _ => hlevel _
    · exact hstep _ (plainRepetition_names work 0 (some 1))
    · exact hstep _ (plainRepetition_names work 0 none)
    · exact hstep _ (plainRepetition_names work 1 none)
    · exact hstep _ (countedRepetition_names work)
    · exact .after fun _ => .after fun _ => hlevel _

/-- No expression that is read names a group twice. -/
theorem readExpr_namesOnce {source : String} {parsed : Parsed} (h : readExpr source = .ok parsed) :
    (parsed.names.map (·.2)).Nodup := by
  unfold readExpr at h
  obtain ⟨⟨work, cursor⟩, hwork, h⟩ := bind_eq_ok.1 h
  have hstart : Work.NamesOnce ⟨.empty, [], {}, 0, []⟩ := List.nodup_nil
  have hnames : work.NamesOnce := readLoop_namesOnce _ hstart _ _ _ hwork
  dsimp only at h
  split at h
  · cases h
  · split at h
    · cases h
    · split at h
      · cases h
      · cases h
        -- only the groups that are left in the expression keep their names
        exact hnames.sublist (List.filter_sublist.map _)

end Destructure.Regex
