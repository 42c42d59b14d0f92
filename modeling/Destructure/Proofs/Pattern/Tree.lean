import Mathlib.Data.List.ReduceOption
import Destructure.Pattern.Basic
import Destructure.Run

set_option autoImplicit false

/-! # Patterns as trees

Every node of a pattern has a site, the numbers of the children on the way to it from the root. This
file fixes what the children of a node are, how a site is followed (`Pattern.node?`), which names a
pattern declares (`Pattern.declared`) and how high it is (`Pattern.height`), and gives the one
induction that all facts about patterns go by: a node may assume them of its parts
(`Pattern.partsInduction`). -/

namespace Destructure.Pattern

/-! ## Children -/

/-- The children of a node, in order. A hole of a sequence has a number but no pattern. -/
def children : Pattern → List (Option Pattern)
  | .sequence elements _ => elements
  | .mapping fields _ => fields.map fun field => some field.2
  | .alternation branches => branches.map some
  | .conjunction members => members.map some
  | .extractor _ inner => inner.toList.map some
  | .regex _ inner => inner.toList.map some
  | .literal _ | .wildcard | .binder _ | .predicate _ => []

/-- The children that are patterns, in order. -/
def parts (p : Pattern) : List Pattern := p.children.reduceOption

/-- The branches of an alternation; other nodes have none. -/
def branches : Pattern → List Pattern
  | .alternation branches => branches
  | _ => []

/-- The keys that a mapping names; other nodes name none. -/
def keys : Pattern → List String
  | .mapping fields _ => fields.map (·.1)
  | _ => []

/-- The name that a node binds by itself: that of a binder, or that of a rest. -/
def ownName? : Pattern → Option String
  | .binder name => some name
  | .sequence _ rest => rest
  | .mapping _ rest => rest
  | _ => none

theorem mem_parts_iff {p q : Pattern} : q ∈ p.parts ↔ some q ∈ p.children :=
  List.reduceOption_mem_iff

@[simp] theorem parts_literal (value : Value) : (literal value).parts = [] := rfl
@[simp] theorem parts_wildcard : wildcard.parts = [] := rfl
@[simp] theorem parts_binder (name : String) : (binder name).parts = [] := rfl
@[simp] theorem parts_predicate (test : Predicate) : (predicate test).parts = [] := rfl

@[simp] theorem parts_sequence (elements : List (Option Pattern)) (rest : Option String) :
    (sequence elements rest).parts = elements.reduceOption := rfl

@[simp] theorem reduceOption_map_some {α : Type} (l : List α) : (l.map some).reduceOption = l := by
  simp [List.reduceOption, List.filterMap_map]

@[simp] theorem parts_mapping (fields : List (String × Pattern)) (rest : Option String) :
    (mapping fields rest).parts = fields.map (·.2) := by
  simp [parts, children, List.reduceOption, List.filterMap_map]

@[simp] theorem parts_alternation (branches : List Pattern) :
    (alternation branches).parts = branches := reduceOption_map_some branches

@[simp] theorem parts_conjunction (members : List Pattern) :
    (conjunction members).parts = members := reduceOption_map_some members

@[simp] theorem parts_extractor (source : Extractor) (inner : Option Pattern) :
    (extractor source inner).parts = inner.toList := reduceOption_map_some inner.toList

@[simp] theorem parts_regex (engine : Regex.Engine) (inner : Option Pattern) :
    (regex engine inner).parts = inner.toList := reduceOption_map_some inner.toList

theorem branches_of_ne_alternation {p : Pattern} (h : ∀ ps, p ≠ alternation ps) :
    p.branches = [] := by
  cases p with
  | alternation ps => exact absurd rfl (h ps)
  | _ => rfl

theorem branches_subset_parts (p : Pattern) : p.branches ⊆ p.parts := by
  cases p with
  | alternation ps => simp [branches]
  | _ => simp [branches]

theorem sizeOf_lt_of_mem_parts {p q : Pattern} (h : q ∈ p.parts) : sizeOf q < sizeOf p := by
  cases p with
  | sequence elements rest =>
    rw [parts_sequence, List.reduceOption_mem_iff] at h
    have hlt := List.sizeOf_lt_of_mem h
    simp only [sequence.sizeOf_spec, Option.some.sizeOf_spec] at hlt ⊢
    omega
  | mapping fields rest =>
    rw [parts_mapping, List.mem_map] at h
    obtain ⟨⟨key, q⟩, hmem, rfl⟩ := h
    have hlt := List.sizeOf_lt_of_mem hmem
    simp only [mapping.sizeOf_spec, Prod.mk.sizeOf_spec] at hlt ⊢
    omega
  | alternation branches =>
    have hlt := List.sizeOf_lt_of_mem (by simpa using h)
    simp only [alternation.sizeOf_spec]
    omega
  | conjunction members =>
    have hlt := List.sizeOf_lt_of_mem (by simpa using h)
    simp only [conjunction.sizeOf_spec]
    omega
  | extractor source inner =>
    obtain rfl : inner = some q := by simpa using h
    simp only [extractor.sizeOf_spec, Option.some.sizeOf_spec]
    omega
  | regex engine inner =>
    obtain rfl : inner = some q := by simpa using h
    simp only [regex.sizeOf_spec, Option.some.sizeOf_spec]
    omega
  | _ => simp at h

/-- What holds of a node as soon as it holds of its parts holds of every pattern. -/
@[elab_as_elim]
theorem partsInduction {motive : Pattern → Prop}
    (node : ∀ p : Pattern, (∀ q ∈ p.parts, motive q) → motive p) (p : Pattern) : motive p :=
  node p fun q _ => partsInduction node q
termination_by sizeOf p
decreasing_by exact sizeOf_lt_of_mem_parts ‹_›

/-! ## Sites -/

/-- The node at a site, if the site leads to one. -/
def node? : Pattern → Site → Option Pattern
  | p, [] => some p
  | p, i :: site => (p.children[i]?.join).bind (·.node? site)

@[simp] theorem node?_nil (p : Pattern) : p.node? [] = some p := rfl

theorem node?_cons {p q : Pattern} {i : Nat} {site : Site} :
    p.node? (i :: site) = some q ↔ ∃ c, p.children[i]? = some (some c) ∧ c.node? site = some q := by
  simp [node?, Option.bind_eq_some_iff, Option.join_eq_some_iff]

/-- The part that a site with a node below the root leads through. -/
theorem mem_parts_of_getElem? {p q : Pattern} {i : Nat} (h : p.children[i]? = some (some q)) :
    q ∈ p.parts := mem_parts_iff.2 (List.mem_of_getElem? h)

/-- A site below a node leads from the root to where it leads from the node. -/
theorem node?_append {p q : Pattern} {s : Site} (h : p.node? s = some q) (t : Site) :
    p.node? (s ++ t) = q.node? t := by
  induction s generalizing p with
  | nil =>
    obtain rfl : p = q := by simpa using h
    rfl
  | cons i s ih =>
    obtain ⟨c, hc, hq⟩ := node?_cons.1 h
    rw [List.cons_append, node?, hc]
    exact ih hq

/-- A condition holds at every node of a pattern. -/
def Everywhere (P : Pattern → Prop) (p : Pattern) : Prop :=
  ∀ site q, p.node? site = some q → P q

/-- A condition holds at every node when it holds at the root and everywhere in the parts. -/
theorem everywhere_iff {P : Pattern → Prop} {p : Pattern} :
    p.Everywhere P ↔ P p ∧ ∀ q ∈ p.parts, q.Everywhere P := by
  constructor
  · intro h
    refine ⟨h [] p rfl, fun q hq site r hr => ?_⟩
    obtain ⟨i, hi⟩ := List.mem_iff_getElem?.1 (mem_parts_iff.1 hq)
    exact h (i :: site) r (node?_cons.2 ⟨q, hi, hr⟩)
  · rintro ⟨hroot, hparts⟩ site q hq
    cases site with
    | nil =>
      obtain rfl : p = q := by simpa using hq
      exact hroot
    | cons i site =>
      obtain ⟨c, hc, hq⟩ := node?_cons.1 hq
      exact hparts c (mem_parts_of_getElem? hc) site q hq

theorem Everywhere.root {P : Pattern → Prop} {p : Pattern} (h : p.Everywhere P) : P p :=
  (everywhere_iff.1 h).1

theorem Everywhere.part {P : Pattern → Prop} {p q : Pattern} (h : p.Everywhere P)
    (hq : q ∈ p.parts) : q.Everywhere P := (everywhere_iff.1 h).2 q hq

theorem Everywhere.node {P : Pattern → Prop} {p q : Pattern} {s : Site} (h : p.Everywhere P)
    (hq : p.node? s = some q) : q.Everywhere P :=
  fun t r hr => h (s ++ t) r (by rw [node?_append hq, hr])

theorem Everywhere.mono {P Q : Pattern → Prop} {p : Pattern} (h : p.Everywhere P)
    (hPQ : ∀ q, P q → Q q) : p.Everywhere Q := fun site q hq => hPQ q (h site q hq)

theorem everywhere_and {P Q : Pattern → Prop} {p : Pattern} :
    (p.Everywhere fun q => P q ∧ Q q) ↔ p.Everywhere P ∧ p.Everywhere Q :=
  ⟨fun h => ⟨h.mono fun _ hq => hq.1, h.mono fun _ hq => hq.2⟩,
    fun ⟨hP, hQ⟩ site q hq => ⟨hP site q hq, hQ site q hq⟩⟩

/-! ## Declared names -/

/-- The parts that a walk over the declarations goes into: of the branches of an alternation, which
all declare the same names, only the first. -/
def walked : Pattern → List Pattern
  | .alternation branches => branches.take 1
  | p => p.parts

theorem mem_parts_of_mem_walked {p q : Pattern} (h : q ∈ p.walked) : q ∈ p.parts := by
  cases p with
  | alternation branches => simpa using List.mem_of_mem_take h
  | _ => exact h

theorem walked_of_ne_alternation {p : Pattern} (h : ∀ branches, p ≠ alternation branches) :
    p.walked = p.parts := by
  cases p with
  | alternation branches => exact absurd rfl (h branches)
  | _ => rfl

/-- The names met on a walk from left to right that goes into the first branch of an alternation
only, and that meets the name of a rest after those of the children. -/
def declared (p : Pattern) : List String :=
  (p.walked.attach.flatMap fun q => q.1.declared) ++ p.ownName?.toList
termination_by p
decreasing_by exact sizeOf_lt_of_mem_parts (mem_parts_of_mem_walked q.2)

theorem declared_eq (p : Pattern) :
    p.declared = p.walked.flatMap declared ++ p.ownName?.toList := by
  rw [declared, List.flatMap_subtype (fun _ _ => rfl), List.unattach_attach]

theorem declared_of_ne_alternation {p : Pattern} (h : ∀ branches, p ≠ alternation branches) :
    p.declared = p.parts.flatMap declared ++ p.ownName?.toList := by
  rw [declared_eq, walked_of_ne_alternation h]

/-- An alternation declares what its first branch declares. -/
@[simp] theorem declared_alternation (first : Pattern) (others : List Pattern) :
    (alternation (first :: others)).declared = first.declared := by
  simp [declared_eq (alternation _), walked, ownName?]

@[simp] theorem declared_literal (value : Value) : (literal value).declared = [] := by
  simp [declared_of_ne_alternation, ownName?]

@[simp] theorem declared_wildcard : wildcard.declared = [] := by
  simp [declared_of_ne_alternation, ownName?]

@[simp] theorem declared_binder (name : String) : (binder name).declared = [name] := by
  simp [declared_of_ne_alternation, ownName?]

@[simp] theorem declared_predicate (test : Predicate) : (predicate test).declared = [] := by
  simp [declared_of_ne_alternation, ownName?]

@[simp] theorem declared_sequence (elements : List (Option Pattern)) (rest : Option String) :
    (sequence elements rest).declared
      = elements.reduceOption.flatMap declared ++ rest.toList := by
  rw [declared_of_ne_alternation (by simp), parts_sequence, ownName?]

@[simp] theorem declared_mapping (fields : List (String × Pattern)) (rest : Option String) :
    (mapping fields rest).declared = (fields.map (·.2)).flatMap declared ++ rest.toList := by
  rw [declared_of_ne_alternation (by simp), parts_mapping, ownName?]

@[simp] theorem declared_conjunction (members : List Pattern) :
    (conjunction members).declared = members.flatMap declared := by
  simp [declared_of_ne_alternation, ownName?]

@[simp] theorem declared_extractor (source : Extractor) (inner : Option Pattern) :
    (extractor source inner).declared = inner.toList.flatMap declared := by
  simp [declared_of_ne_alternation, ownName?]

@[simp] theorem declared_regex (engine : Regex.Engine) (inner : Option Pattern) :
    (regex engine inner).declared = inner.toList.flatMap declared := by
  simp [declared_of_ne_alternation, ownName?]

/-! ## Height -/

/-- The number of levels of a tree; a tree of one node has height 1. -/
def height (p : Pattern) : Nat := (p.parts.attach.map fun q => q.1.height).foldr max 0 + 1
termination_by p
decreasing_by exact sizeOf_lt_of_mem_parts q.2

/-- The height of the highest of several trees. -/
def maxHeight (ps : List Pattern) : Nat := (ps.map height).foldr max 0

theorem height_eq (p : Pattern) : p.height = maxHeight p.parts + 1 := by
  rw [height, List.map_subtype (fun _ _ => rfl), List.unattach_attach, maxHeight]

@[simp] theorem maxHeight_nil : maxHeight [] = 0 := rfl

@[simp] theorem maxHeight_cons (p : Pattern) (ps : List Pattern) :
    maxHeight (p :: ps) = max p.height (maxHeight ps) := rfl

theorem maxHeight_le_iff {ps : List Pattern} {n : Nat} :
    maxHeight ps ≤ n ↔ ∀ p ∈ ps, p.height ≤ n := by
  induction ps with
  | nil => simp
  | cons p ps ih => rw [maxHeight_cons, Nat.max_le, ih, List.forall_mem_cons]

end Destructure.Pattern
