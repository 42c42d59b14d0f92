import Mathlib.Data.List.Forall2
import Destructure.Proofs.Matching.Plan
import Destructure.Proofs.Pattern.Frame

set_option autoImplicit false

/-! # Patterns that can stand for each other

Two patterns are related when they demand the same structures and what they make of each subject is
related. The shape counts because an extractor chooses by it what its inner pattern is matched against.
Where putting readings together keeps the relation, nodes with related children are related
(`Pattern.Related.fill`). Two patterns are *interchangeable* when they read every subject alike, with
the same calls: a part of a pattern can be replaced wherever it stands
(`Pattern.Interchangeable.fill`). -/

namespace Destructure.Pattern

/-- The patterns demand the same structures, and what they make of a subject is related. -/
structure Related (Q : Reading → Reading → Prop) (p q : Pattern) : Prop where
  shape : p.shape = q.shape
  read : ∀ scope s t subject, Q (p.read scope s subject) (q.read scope t subject)

/-- The patterns demand the same structures, and read every subject alike. -/
structure Interchangeable (p q : Pattern) : Prop where
  shape : p.shape = q.shape
  read : ∀ scope s t subject, (p.read scope s subject).Alike (q.read scope t subject)

section Related

variable {Q : Reading → Reading → Prop} (hQ : Reading.Closed fun _ _ => Q)
include hQ

namespace Related

theorem refl (p : Pattern) : p.Related Q p :=
  ⟨rfl, fun _ => read_induction hQ p⟩

/-- An element, or a hole, is related to itself. -/
theorem rel_refl : ∀ element, Option.Rel (Related Q) element element
  | none => .none
  | some p => .some (refl hQ p)

end Related

/-! ## Related children -/

variable (scope : Scope) (s t : Site)

theorem readElements_congr {elements others : List (Option Pattern)}
    (h : List.Forall₂ (Option.Rel (Related Q)) elements others) (i j : Nat) (items : List Value) :
    Q (readElements elements scope s i items) (readElements others scope t j items) := by
  induction h generalizing i j items with
  | nil => rw [readElements_nil, readElements_nil]; exact hQ.bound s t []
  | cons hfirst _ ih =>
    cases items with
    | nil => cases hfirst <;> simp only [readElements] <;> exact hQ.bound s t []
    | cons item items =>
      cases hfirst with
      | none => simp only [readElements]; exact ih (i + 1) (j + 1) items
      | some hp =>
        simp only [readElements]
        exact hQ.both (s := s) (t := t) (hp.read scope _ _ item) (ih (i + 1) (j + 1) items)

theorem readFields_congr {fields others : List (String × Pattern)}
    (h : List.Forall₂ (fun a b => a.1 = b.1 ∧ a.2.Related Q b.2) fields others) (i j : Nat)
    (entries : List (String × Value)) :
    Q (readFields fields scope s i entries) (readFields others scope t j entries) := by
  induction h generalizing i j with
  | nil => rw [readFields, readFields]; exact hQ.bound s t []
  | @cons field other _ _ hfirst _ ih =>
    obtain ⟨key, p⟩ := field
    obtain ⟨key', q⟩ := other
    obtain ⟨rfl, hp⟩ : key = key' ∧ p.Related Q q := hfirst
    rw [readFields, readFields]
    cases Entries.find? key entries with
    | none => exact hQ.rejected s t
    | some value =>
      exact hQ.both (s := s) (t := t) (hp.read scope _ _ value) (ih (i + 1) (j + 1))

theorem readBranches_congr {branches others : List Pattern}
    (h : List.Forall₂ (Related Q) branches others) (i j : Nat) (subject : Value) :
    Q (readBranches branches scope s i subject) (readBranches others scope t j subject) := by
  induction h generalizing i j with
  | nil => rw [readBranches, readBranches]; exact hQ.rejected s t
  | cons hp _ ih =>
    rw [readBranches, readBranches]
    exact hQ.either (s := s) (t := t) (hp.read scope _ _ subject) (ih (i + 1) (j + 1))

theorem readMembers_congr {members others : List Pattern}
    (h : List.Forall₂ (Related Q) members others) (i j : Nat) (subject : Value) :
    Q (readMembers members scope s i subject) (readMembers others scope t j subject) := by
  induction h generalizing i j with
  | nil => rw [readMembers, readMembers]; exact hQ.bound s t []
  | cons hp _ ih =>
    rw [readMembers, readMembers]
    exact hQ.both (s := s) (t := t) (hp.read scope _ _ subject) (ih (i + 1) (j + 1))

/-- The shape of the inner pattern decides what it is matched against. -/
theorem readInner_congr {p q : Pattern} (h : p.Related Q q) (name : String)
    (extraction : Extraction) :
    Q (readInner (some p) scope s name extraction) (readInner (some q) scope t name extraction) := by
  rw [readInner, readInner, h.shape]
  split
  · cases extraction.target q.shape with
    | ok target => exact h.read scope _ _ target
    | error fault => exact hQ.fault s t _ rfl
  · exact hQ.rejected s t

end Related

/-! A list reads alike wherever it stands, and whatever the number of its first child is. -/

section Alike

variable (scope : Scope) (s t : Site)

theorem readElements_alike (elements : List (Option Pattern)) (i j : Nat) (items : List Value) :
    (readElements elements scope s i items).Alike (readElements elements scope t j items) :=
  readElements_congr alike_closed scope s t
    (List.forall₂_same.2 fun element _ => Related.rel_refl alike_closed element) i j items

theorem readBranches_alike (branches : List Pattern) (i j : Nat) (subject : Value) :
    (readBranches branches scope s i subject).Alike (readBranches branches scope t j subject) :=
  readBranches_congr alike_closed scope s t
    (List.forall₂_same.2 fun p _ => Related.refl alike_closed p) i j subject

theorem readMembers_alike (members : List Pattern) (i j : Nat) (subject : Value) :
    (readMembers members scope s i subject).Alike (readMembers members scope t j subject) :=
  readMembers_congr alike_closed scope s t
    (List.forall₂_same.2 fun p _ => Related.refl alike_closed p) i j subject

end Alike

/-! ## Nodes with such children -/

/-- Equal lists but for one place. -/
theorem forall₂_replace {α : Type} {R : α → α → Prop} (hR : ∀ a, R a a) {a b : α} (h : R a b)
    (before after : List α) : List.Forall₂ R (before ++ a :: after) (before ++ b :: after) :=
  List.rel_append (List.forall₂_same.2 fun a _ => hR a)
    (.cons h (List.forall₂_same.2 fun a _ => hR a))

theorem otherEntries_congr {fields others : List (String × Pattern)}
    (h : fields.map (·.1) = others.map (·.1)) (entries : List (String × Value)) :
    otherEntries fields entries = otherEntries others entries := by
  have hany (fields : List (String × Pattern)) (key : String) :
      (fields.any fun field => field.1 == key) = (fields.map (·.1)).any (· == key) := by
    rw [List.any_map]
    rfl
  simp only [otherEntries, hany, h]

namespace Related

variable {Q : Reading → Reading → Prop} (hQ : Reading.Closed fun _ _ => Q) {p q : Pattern}
include hQ

theorem sequence (h : p.Related Q q) (before after : List (Option Pattern))
    (rest : Option String) :
    (Pattern.sequence (before ++ some p :: after) rest).Related Q
      (.sequence (before ++ some q :: after) rest) := by
  refine ⟨rfl, fun scope s t subject => ?_⟩
  cases subject with
  | sequence items =>
    have helements := readElements_congr hQ scope s t
      (forall₂_replace (rel_refl hQ) (.some h) before after) 0 0 items
    have hlength : (before ++ some p :: after).length = (before ++ some q :: after).length := by
      simp
    rw [Pattern.read, Pattern.read, hlength]
    split
    · exact hQ.both (s := s) (t := t) helements (hQ.bound s t _)
    · exact hQ.rejected s t
  | _ =>
    simp only [Pattern.read]
    exact hQ.rejected s t

theorem mapping (h : p.Related Q q) (before after : List (String × Pattern)) (key : String)
    (rest : Option String) :
    (Pattern.mapping (before ++ (key, p) :: after) rest).Related Q
      (.mapping (before ++ (key, q) :: after) rest) := by
  refine ⟨rfl, fun scope s t subject => ?_⟩
  cases subject with
  | mapping entries =>
    have hfields := readFields_congr hQ scope s t (forall₂_replace
      (R := fun a b : String × Pattern => a.1 = b.1 ∧ a.2.Related Q b.2)
      (fun field => ⟨rfl, refl hQ field.2⟩) (a := (key, p)) (b := (key, q)) ⟨rfl, h⟩ before after)
      0 0 entries
    have hother : otherEntries (before ++ (key, p) :: after) entries
        = otherEntries (before ++ (key, q) :: after) entries := otherEntries_congr (by simp) entries
    rw [Pattern.read, Pattern.read, hother]
    exact hQ.both (s := s) (t := t) hfields (hQ.bound s t _)
  | _ =>
    simp only [Pattern.read]
    exact hQ.rejected s t

/-- A node stays related when a child is replaced by a related one. -/
theorem fill (h : p.Related Q q) (f : Frame) : (f.fill p).Related Q (f.fill q) := by
  cases f with
  | element before after rest => exact h.sequence hQ before after rest
  | field before after key rest => exact h.mapping hQ before after key rest
  | branch before after =>
    refine ⟨Frame.shape_fill (.branch before after) h.shape, fun scope s t subject => ?_⟩
    simp only [Frame.fill, Pattern.read]
    exact readBranches_congr hQ scope s t (forall₂_replace (refl hQ) h before after) 0 0 subject
  | member before after =>
    refine ⟨Frame.shape_fill (.member before after) h.shape, fun scope s t subject => ?_⟩
    simp only [Frame.fill, Pattern.read]
    exact readMembers_congr hQ scope s t (forall₂_replace (refl hQ) h before after) 0 0 subject
  | extractor source =>
    refine ⟨rfl, fun scope s t subject => ?_⟩
    simp only [Frame.fill, Pattern.read]
    exact hQ.call _ (by simp) fun extraction => readInner_congr hQ scope s t h _ extraction
  | regex engine =>
    refine ⟨rfl, fun scope s t subject => ?_⟩
    simp only [Frame.fill, Pattern.read]
    exact hQ.call _ (by simp) fun extraction => readInner_congr hQ scope s t h _ extraction

end Related

namespace Interchangeable

theorem refl (p : Pattern) : p.Interchangeable p := ⟨rfl, p.read_alike⟩

theorem trans {p q r : Pattern} (h : p.Interchangeable q) (h' : q.Interchangeable r) :
    p.Interchangeable r :=
  ⟨h.shape.trans h'.shape,
    fun scope s t subject => (h.read scope s t subject).trans (h'.read scope t t subject)⟩

/-- A part can be replaced, wherever it stands. -/
theorem fill {p q : Pattern} (h : p.Interchangeable q) (f : Frame) :
    (f.fill p).Interchangeable (f.fill q) := by
  obtain ⟨hshape, hread⟩ := Related.fill alike_closed ⟨h.shape, h.read⟩ f
  exact ⟨hshape, hread⟩

end Interchangeable

end Destructure.Pattern
