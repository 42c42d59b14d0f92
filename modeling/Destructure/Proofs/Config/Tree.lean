import Destructure.Config.Basic
import Destructure.Proofs.Pattern.Tree

set_option autoImplicit false

/-! # Configurations as trees

The configurations of patterns and those of guards are trees in which every node has smaller parts. For
any such trees (`Branching`) there is the walk that comes to a node before its parts and to these from
left to right, and that counts the levels (`Branching.preorder`). -/

namespace Destructure

/-- How trees are taken apart into smaller ones. -/
structure Branching (τ : Type) [SizeOf τ] where
  /-- The parts of a node, from left to right. -/
  parts : τ → List τ
  sizeOf_lt : ∀ {t q : τ}, q ∈ parts t → sizeOf q < sizeOf t

namespace Branching

variable {τ β : Type} [SizeOf τ]

/-- What holds of a tree as soon as it holds of its parts holds of every tree. -/
theorem induction (b : Branching τ) {motive : τ → Prop}
    (node : ∀ t, (∀ q ∈ b.parts t, motive q) → motive t) (t : τ) : motive t :=
  node t fun q _ => b.induction node q
termination_by sizeOf t
decreasing_by exact b.sizeOf_lt ‹_›

/-- The nodes of a tree with their levels, each node before those below it and these from left to
right. -/
def preorder (b : Branching τ) (t : τ) (level : Nat) : List (τ × Nat) :=
  (t, level) :: (b.parts t).attach.flatMap fun q => b.preorder q.1 (level + 1)
termination_by sizeOf t
decreasing_by exact b.sizeOf_lt q.2

variable (b : Branching τ)

theorem preorder_eq (t : τ) (level : Nat) :
    b.preorder t level = (t, level) :: (b.parts t).flatMap fun q => b.preorder q (level + 1) := by
  have h := List.flatMap_subtype (l := (b.parts t).attach)
    (f := fun q => b.preorder q.1 (level + 1)) (g := fun q => b.preorder q (level + 1))
    fun _ _ => rfl
  rw [preorder, h, List.unattach_attach]

/-- The nodes of a tree, in that order. -/
def nodes (t : τ) : List τ := (b.preorder t 0).map (·.1)

/-- The levels do not matter for the nodes. -/
theorem map_fst_preorder (t : τ) (level : Nat) : (b.preorder t level).map (·.1) = b.nodes t := by
  rw [nodes]
  induction t using b.induction generalizing level with
  | node t ih =>
    rw [preorder_eq, preorder_eq, List.map_cons, List.map_cons, List.map_flatMap, List.map_flatMap]
    refine congrArg (t :: ·) (List.flatMap_congr fun q hq => ?_)
    rw [ih q hq (level + 1), ih q hq (0 + 1)]

theorem nodes_eq (t : τ) : b.nodes t = t :: (b.parts t).flatMap b.nodes := by
  rw [nodes, preorder_eq, List.map_cons, List.map_flatMap]
  exact congrArg (t :: ·) (List.flatMap_congr fun q _ => b.map_fst_preorder q (0 + 1))

/-- What the nodes contribute to a list, one after the other. -/
def listing (own : τ → Nat → List β) (t : τ) (level : Nat) : List β :=
  (b.preorder t level).flatMap fun node => own node.1 node.2

/-- The root contributes first, and then each part. -/
theorem listing_eq (own : τ → Nat → List β) (t : τ) (level : Nat) :
    b.listing own t level
      = own t level ++ (b.parts t).flatMap fun q => b.listing own q (level + 1) := by
  rw [listing, preorder_eq, List.flatMap_cons, List.flatMap_assoc]
  rfl

end Branching

/-! ## Patterns -/

namespace PatternConfig

/-- The children of a node, in order. A hole of a sequence counts as a child. -/
def children : PatternConfig → List (Option PatternConfig)
  | .sequence elements _ => elements
  | .mapping fields _ => fields.map fun field => some field.2
  | .alternation branches => branches.map some
  | .conjunction members => members.map some
  | .extractor _ inner => inner.toList.map some
  | .regex _ inner => inner.toList.map some
  | .literal _ | .wildcard | .bind _ | .predicate _ | .constant _ => []

/-- The children that are patterns, in order. -/
def parts (config : PatternConfig) : List PatternConfig := config.children.reduceOption

@[simp] theorem parts_sequence (elements : List (Option PatternConfig)) (rest : Option String) :
    (sequence elements rest).parts = elements.reduceOption := rfl

@[simp] theorem parts_mapping (fields : List (String × PatternConfig)) (rest : Option String) :
    (mapping fields rest).parts = fields.map (·.2) := by
  simp [parts, children, List.reduceOption, List.filterMap_map]

@[simp] theorem parts_alternation (branches : List PatternConfig) :
    (alternation branches).parts = branches := Pattern.reduceOption_map_some branches

@[simp] theorem parts_conjunction (members : List PatternConfig) :
    (conjunction members).parts = members := Pattern.reduceOption_map_some members

@[simp] theorem parts_extractor (source : ExtractorConfig) (inner : Option PatternConfig) :
    (extractor source inner).parts = inner.toList := Pattern.reduceOption_map_some inner.toList

@[simp] theorem parts_regex (expression : String) (inner : Option PatternConfig) :
    (regex expression inner).parts = inner.toList := Pattern.reduceOption_map_some inner.toList

theorem sizeOf_lt_of_mem_parts {config c : PatternConfig} (h : c ∈ config.parts) :
    sizeOf c < sizeOf config := by
  cases config with
  | sequence elements rest =>
    rw [parts_sequence, List.reduceOption_mem_iff] at h
    have hlt := List.sizeOf_lt_of_mem h
    simp only [sequence.sizeOf_spec, Option.some.sizeOf_spec] at hlt ⊢
    omega
  | mapping fields rest =>
    rw [parts_mapping, List.mem_map] at h
    obtain ⟨⟨key, c⟩, hmem, rfl⟩ := h
    have hlt := List.sizeOf_lt_of_mem hmem
    simp only [mapping.sizeOf_spec, Prod.mk.sizeOf_spec] at hlt ⊢
    omega
  | alternation branches =>
    have hlt := List.sizeOf_lt_of_mem (by simpa using h)
    simp only [alternation.sizeOf_spec]
    omega
  | conjunction members =>
    have hlt := List.sizeOf_lt_of_mem (by simpa using h)
    simp only [conjunction.sizeOf_spec]
    omega
  | extractor source inner =>
    obtain rfl : inner = some c := by simpa using h
    simp only [extractor.sizeOf_spec, Option.some.sizeOf_spec]
    omega
  | regex expression inner =>
    obtain rfl : inner = some c := by simpa using h
    simp only [regex.sizeOf_spec, Option.some.sizeOf_spec]
    omega
  | _ => cases h

/-- A configuration is taken apart into its children that are patterns. -/
def branching : Branching PatternConfig := ⟨parts, sizeOf_lt_of_mem_parts⟩

end PatternConfig

/-! ## Guards -/

namespace GuardConfig

/-- The members of a combination, in order. -/
def members : GuardConfig → List GuardConfig
  | .all members => members
  | .any members => members
  | .not inner => [inner]
  | .compare .. | .bound _ | .named _ => []

theorem sizeOf_lt_of_mem_members {config c : GuardConfig} (h : c ∈ config.members) :
    sizeOf c < sizeOf config := by
  cases config with
  | all members =>
    have hlt : sizeOf c < sizeOf members := List.sizeOf_lt_of_mem h
    simp only [all.sizeOf_spec]
    omega
  | any members =>
    have hlt : sizeOf c < sizeOf members := List.sizeOf_lt_of_mem h
    simp only [any.sizeOf_spec]
    omega
  | not inner =>
    obtain rfl : c = inner := List.mem_singleton.1 h
    simp only [not.sizeOf_spec]
    omega
  | _ => cases h

/-- A configuration is taken apart into its members. -/
def branching : Branching GuardConfig := ⟨members, sizeOf_lt_of_mem_members⟩

end GuardConfig

end Destructure
