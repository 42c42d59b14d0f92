import Destructure.Proofs.Matching.Reading

set_option autoImplicit false

/-! # The names that a match binds

Which names a reading binds is known from the pattern alone: those that it declares, up to the order
in which the branches of its alternations declare theirs. `Pattern.read_names` is about any relation
between lists of names in which the branches stand to their alternation, so that it gives both the
same names in any order and the same order where all branches agree on it. -/

namespace Destructure

namespace Reading

/-- A reading that matches binds names that are related to the given ones. -/
def BindsNames (R : List String → List String → Prop) (reading : Reading) (names : List String) :
    Prop :=
  ∀ pairs, reading.result = .ok (some pairs) → R (Entries.keys pairs) names

theorem bindsNames_rejected {R : List String → List String → Prop} {names : List String} :
    BindsNames R rejected names := fun _ h => absurd h (by simp)

theorem bindsNames_bound {R : List String → List String → Prop} {pairs : List (String × Value)}
    (h : R (Entries.keys pairs) (Entries.keys pairs)) :
    BindsNames R (bound pairs) (Entries.keys pairs) := by
  intro found hfound
  obtain rfl : pairs = found := by simpa using hfound
  exact h

theorem bindsNames_ofBool {R : List String → List String → Prop} (h : R [] []) (condition : Bool) :
    BindsNames R (ofBool condition) [] := by
  cases condition with
  | false => exact bindsNames_rejected
  | true => exact bindsNames_bound h

theorem bindsNames_bind {α : Type} {R : List String → List String → Prop} {names : List String}
    (run : Run MatchError α) {next : α → Reading} (h : ∀ a, BindsNames R (next a) names) :
    BindsNames R (run >>= next) names := by
  intro pairs hpairs
  rw [Run.result_bind] at hpairs
  obtain ⟨a, -, ha⟩ := bind_eq_ok.1 hpairs
  exact h a pairs ha

theorem bindsNames_both {R : List String → List String → Prop} {first second : Reading}
    {a b : List String} (happend : ∀ {k l m n}, R k l → R m n → R (k ++ m) (l ++ n))
    (h : BindsNames R first a) (h' : BindsNames R second b) :
    BindsNames R (first.both second) (a ++ b) := by
  intro pairs hpairs
  obtain ⟨c, d, hc, hd, rfl⟩ := result_both_eq_some.1 hpairs
  rw [Entries.keys, List.map_append]
  exact happend (h c hc) (h' d hd)

end Reading

namespace Pattern

/-! ## Bound names -/

@[simp] theorem keys_leftover (rest : Option String) (value : Value) :
    Entries.keys (leftover rest value) = rest.toList := by
  simp [Entries.keys, leftover, Function.comp_def]

/-- Elements that fit are not more than the items. -/
theorem le_of_lengthFits {elements items : Nat} {rest : Option String}
    (h : lengthFits elements rest items) : elements ≤ items := by
  cases rest with
  | none => exact le_of_eq (of_decide_eq_true h).symm
  | some name => exact of_decide_eq_true h

/-- Every match of the pattern binds names that are related to those that it declares. -/
def BindsDeclared (R : List String → List String → Prop) (scope : Scope) (p : Pattern) : Prop :=
  ∀ site subject, (p.read scope site subject).BindsNames R p.declared

section BoundNames

variable {R : List String → List String → Prop} (hrefl : ∀ l, R l l)
include hrefl

theorem readInner_names {scope : Scope} {inner : Option Pattern}
    (h : ∀ p ∈ inner.toList, p.BindsDeclared R scope)
    (site : Site) (name : String) (extraction : Extraction) :
    (readInner inner scope site name extraction).BindsNames R
      (inner.toList.flatMap declared) := by
  rw [readInner.eq_def]
  split
  · cases inner with
    | none => exact Reading.bindsNames_bound (hrefl [])
    | some p =>
      have hp := h p (by simp)
      rw [Option.toList_some, List.flatMap_singleton]
      dsimp only
      cases extraction.target p.shape with
      | ok target => exact hp _ target
      | error fault => exact fun _ hfound => absurd hfound (by simp)
  · exact Reading.bindsNames_rejected

variable (happend : ∀ {k l m n}, R k l → R m n → R (k ++ m) (l ++ n))
include happend

theorem readElements_names {scope : Scope} {elements : List (Option Pattern)}
    (h : ∀ p, some p ∈ elements → p.BindsDeclared R scope)
    (site : Site) (index : Nat) {items : List Value} (hlength : elements.length ≤ items.length) :
    (readElements elements scope site index items).BindsNames R
      (elements.reduceOption.flatMap declared) := by
  induction elements generalizing index items with
  | nil =>
    rw [readElements_nil]
    exact Reading.bindsNames_bound (hrefl _)
  | cons element elements ih =>
    cases items with
    | nil => simp at hlength
    | cons item items =>
      have hrest := ih (fun p hp => h p (List.mem_cons_of_mem _ hp)) (index + 1)
        (Nat.le_of_succ_le_succ hlength)
      cases element with
      | none =>
        rw [readElements, List.reduceOption_cons_of_none]
        exact hrest
      | some p =>
        rw [readElements, List.reduceOption_cons_of_some, List.flatMap_cons]
        exact Reading.bindsNames_both happend (h p (List.mem_cons_self ..) _ _) hrest

theorem readFields_names {scope : Scope} {fields : List (String × Pattern)}
    (h : ∀ p ∈ fields.map (·.2), p.BindsDeclared R scope)
    (site : Site) (index : Nat) (entries : List (String × Value)) :
    (readFields fields scope site index entries).BindsNames R
      ((fields.map (·.2)).flatMap declared) := by
  induction fields generalizing index with
  | nil =>
    rw [readFields]
    exact Reading.bindsNames_bound (hrefl _)
  | cons field fields ih =>
    obtain ⟨key, p⟩ := field
    rw [List.map_cons, List.forall_mem_cons] at h
    rw [readFields, List.map_cons, List.flatMap_cons]
    cases Entries.find? key entries with
    | none => exact Reading.bindsNames_rejected
    | some value => exact Reading.bindsNames_both happend (h.1 _ _) (ih h.2 _)

theorem read_sequence_names {scope : Scope} {elements : List (Option Pattern)}
    {rest : Option String}
    (h : ∀ p, some p ∈ elements → p.BindsDeclared R scope)
    (site : Site) (subject : Value) :
    ((sequence elements rest).read scope site subject).BindsNames R
      (sequence elements rest).declared := by
  rw [declared_sequence]
  cases subject with
  | sequence items =>
    rw [read]
    split
    · next hfits =>
      -- there is an item for every element, so none of them is passed over
      rw [← keys_leftover rest (.sequence (items.drop elements.length))]
      refine Reading.bindsNames_both happend ?_ (Reading.bindsNames_bound (hrefl _))
      exact readElements_names hrefl happend h site 0 (le_of_lengthFits hfits)
    · exact Reading.bindsNames_rejected
  | _ =>
    simp only [read]
    exact Reading.bindsNames_rejected

theorem read_mapping_names {scope : Scope} {fields : List (String × Pattern)} {rest : Option String}
    (h : ∀ p ∈ fields.map (·.2), p.BindsDeclared R scope)
    (site : Site) (subject : Value) :
    ((mapping fields rest).read scope site subject).BindsNames R
      (mapping fields rest).declared := by
  rw [declared_mapping]
  cases subject with
  | mapping entries =>
    rw [read, ← keys_leftover rest (.mapping (otherEntries fields entries))]
    refine Reading.bindsNames_both happend ?_ (Reading.bindsNames_bound (hrefl _))
    exact readFields_names hrefl happend h site 0 entries
  | _ =>
    simp only [read]
    exact Reading.bindsNames_rejected

theorem readMembers_names {scope : Scope} {members : List Pattern}
    (h : ∀ p ∈ members, p.BindsDeclared R scope)
    (site : Site) (index : Nat) (subject : Value) :
    (readMembers members scope site index subject).BindsNames R (members.flatMap declared) := by
  induction members generalizing index with
  | nil =>
    rw [readMembers]
    exact Reading.bindsNames_bound (hrefl _)
  | cons p members ih =>
    rw [List.forall_mem_cons] at h
    rw [readMembers, List.flatMap_cons]
    exact Reading.bindsNames_both happend (h.1 _ _) (ih h.2 _)

end BoundNames

/-- The branch that matches decides the names; they all are related to the same list. -/
theorem readBranches_names {R : List String → List String → Prop} {names : List String}
    {scope : Scope} {branches : List Pattern}
    (h : ∀ p ∈ branches, ∀ site subject, (p.read scope site subject).BindsNames R names)
    (site : Site) (index : Nat) (subject : Value) :
    (readBranches branches scope site index subject).BindsNames R names := by
  induction branches generalizing index with
  | nil => exact Reading.bindsNames_rejected
  | cons p branches ih =>
    rw [List.forall_mem_cons] at h
    rw [readBranches]
    intro pairs hpairs
    rcases Reading.result_either_eq_some.1 hpairs with hp | ⟨-, hrest⟩
    · exact h.1 _ _ pairs hp
    · exact ih h.2 _ pairs hrest

/-- A match binds the declared names, up to a relation in which every branch of an alternation
stands to the alternation. -/
theorem read_names {R : List String → List String → Prop} (hrefl : ∀ l, R l l)
    (happend : ∀ {k l m n}, R k l → R m n → R (k ++ m) (l ++ n))
    (htrans : ∀ {l m n}, R l m → R m n → R l n) {p : Pattern}
    (h : p.Everywhere fun q => ∀ b ∈ q.branches, R b.declared q.declared) (scope : Scope) :
    p.BindsDeclared R scope := by
  induction p using partsInduction with
  | node p ih =>
    have hparts : ∀ q ∈ p.parts, q.BindsDeclared R scope := fun q hq => ih q hq (h.part hq)
    intro site subject
    cases p with
    | alternation branches =>
      rw [parts_alternation] at hparts
      rw [read]
      -- whichever branch matches, its names are related to those of the alternation
      refine readBranches_names (fun q hq site subject pairs hpairs => ?_) site 0 subject
      exact htrans (hparts q hq site subject pairs hpairs) (h.root q hq)
    | literal value =>
      rw [read, declared_literal]
      exact Reading.bindsNames_ofBool (hrefl []) _
    | wildcard =>
      rw [read, declared_wildcard]
      exact Reading.bindsNames_bound (hrefl [])
    | predicate test =>
      rw [read, declared_predicate]
      exact Reading.bindsNames_bind _ fun _ => Reading.bindsNames_ofBool (hrefl []) _
    | binder name =>
      rw [read, declared_binder]
      exact Reading.bindsNames_bound (hrefl [name])
    | sequence elements rest =>
      rw [parts_sequence] at hparts
      refine read_sequence_names hrefl happend (fun q hq => ?_) site subject
      exact hparts q (List.reduceOption_mem_iff.2 hq)
    | mapping fields rest =>
      rw [parts_mapping] at hparts
      exact read_mapping_names hrefl happend hparts site subject
    | conjunction members =>
      rw [parts_conjunction] at hparts
      rw [read, declared_conjunction]
      exact readMembers_names hrefl happend hparts site 0 subject
    | extractor source inner =>
      rw [parts_extractor] at hparts
      rw [read, declared_extractor]
      exact Reading.bindsNames_bind _ fun _ => readInner_names hrefl hparts site _ _
    | regex engine inner =>
      rw [parts_regex] at hparts
      rw [read, declared_regex]
      exact Reading.bindsNames_bind _ fun _ => readInner_names hrefl hparts site _ _

end Pattern

end Destructure
