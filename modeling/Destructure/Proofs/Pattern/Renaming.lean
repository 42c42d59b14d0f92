import Mathlib.Data.List.Perm.Basic
import Destructure.Proofs.Pattern.Analysis

set_option autoImplicit false

/-! # Renaming the names of a pattern

`Pattern.rename` applies a map of names to all binders and rests of a pattern and leaves the rest of
the tree alone, keys of mappings included. A renamed pattern has the children, the height, the shape
and the declared names that one expects. An injective map keeps different names different, so under
one a pattern is accepted exactly when it was before (`Pattern.exists_compile_rename_iff`). -/

namespace Destructure.Pattern

variable (r : String → String)

mutual

/-- The pattern with other names for its binders and rests. -/
def rename : Pattern → Pattern
  | .literal value => .literal value
  | .wildcard => .wildcard
  | .binder name => .binder (r name)
  | .sequence elements rest => .sequence (renameElements elements) (rest.map r)
  | .mapping fields rest => .mapping (renameFields fields) (rest.map r)
  | .alternation branches => .alternation (renameAll branches)
  | .conjunction members => .conjunction (renameAll members)
  | .predicate test => .predicate test
  | .extractor source inner => .extractor source (renameInner inner)
  | .regex engine inner => .regex engine (renameInner inner)

def renameAll : List Pattern → List Pattern
  | [] => []
  | p :: rest => rename p :: renameAll rest

def renameElements : List (Option Pattern) → List (Option Pattern)
  | [] => []
  | none :: rest => none :: renameElements rest
  | some p :: rest => some (rename p) :: renameElements rest

def renameFields : List (String × Pattern) → List (String × Pattern)
  | [] => []
  | (key, p) :: rest => (key, rename p) :: renameFields rest

def renameInner : Option Pattern → Option Pattern
  | none => none
  | some p => some (rename p)

end

/-! ## Parts of a renamed pattern -/

theorem renameAll_eq_map (ps : List Pattern) : renameAll r ps = ps.map (rename r) := by
  induction ps with
  | nil => rw [renameAll, List.map_nil]
  | cons p ps ih => rw [renameAll, ih, List.map_cons]

theorem renameElements_eq_map (elements : List (Option Pattern)) :
    renameElements r elements = elements.map (Option.map (rename r)) := by
  induction elements with
  | nil => rw [renameElements, List.map_nil]
  | cons element elements ih => cases element <;> rw [renameElements, ih] <;> rfl

theorem renameFields_eq_map (fields : List (String × Pattern)) :
    renameFields r fields = fields.map fun field => (field.1, field.2.rename r) := by
  induction fields with
  | nil => rw [renameFields, List.map_nil]
  | cons field fields ih => rw [renameFields, ih, List.map_cons]

/-- The children are renamed and stay where they are. -/
theorem children_rename (p : Pattern) :
    (p.rename r).children = p.children.map (Option.map (rename r)) := by
  cases p with
  | sequence elements rest => exact renameElements_eq_map r elements
  | mapping fields rest => simp [rename, children, renameFields_eq_map]
  | alternation branches | conjunction branches => simp [rename, children, renameAll_eq_map]
  | extractor source inner | regex engine inner =>
    cases inner <;> simp [rename, children, renameInner]
  | _ => rfl

theorem parts_rename (p : Pattern) : (p.rename r).parts = p.parts.map (rename r) := by
  rw [parts, children_rename, List.reduceOption_map, parts]

theorem branches_rename (p : Pattern) : (p.rename r).branches = p.branches.map (rename r) := by
  cases p with
  | alternation ps => exact renameAll_eq_map r ps
  | _ => rfl

theorem keys_rename (p : Pattern) : (p.rename r).keys = p.keys := by
  cases p with
  | mapping fields rest => simp [rename, keys, renameFields_eq_map, Function.comp_def]
  | _ => rfl

theorem ownName?_rename (p : Pattern) : (p.rename r).ownName? = p.ownName?.map r := by
  cases p <;> rfl

theorem walked_rename (p : Pattern) : (p.rename r).walked = p.walked.map (rename r) := by
  cases p with
  | alternation ps => rw [rename, walked, walked, renameAll_eq_map, List.map_take]
  | _ => exact parts_rename r _

/-- The declared names are renamed one by one. -/
theorem declared_rename (p : Pattern) : (p.rename r).declared = p.declared.map r := by
  induction p using partsInduction with
  | node p ih =>
    have hwalked : (p.walked.map (rename r)).flatMap declared
        = p.walked.flatMap fun q => q.declared.map r := by
      rw [List.flatMap_map]
      exact List.flatMap_congr fun q hq => ih q (mem_parts_of_mem_walked hq)
    rw [declared_eq, declared_eq, walked_rename, ownName?_rename, hwalked, List.map_append,
      List.map_flatMap, Option.toList_map]

theorem height_rename (p : Pattern) : (p.rename r).height = p.height := by
  induction p using partsInduction with
  | node p ih =>
    have hparts : (p.parts.map (rename r)).map height = p.parts.map height := by
      rw [List.map_map]
      exact List.map_congr_left ih
    rw [height_eq, height_eq, parts_rename, maxHeight, hparts, maxHeight]

mutual

/-- Names have no say in the structure that a pattern takes a value apart into. -/
theorem shape_rename (p : Pattern) : (p.rename r).shape = p.shape := by
  cases p with
  | alternation ps | conjunction ps => exact shapes_renameAll ps
  | _ => rfl

theorem shapes_renameAll (ps : List Pattern) : shapes (renameAll r ps) = shapes ps := by
  cases ps with
  | nil => rfl
  | cons p ps => rw [renameAll, shapes, shapes, shape_rename p, shapes_renameAll ps]

end

/-! ## Acceptance -/

theorem node?_rename (p : Pattern) (site : Site) :
    (p.rename r).node? site = (p.node? site).map (rename r) := by
  induction site generalizing p with
  | nil => rfl
  | cons i site ih =>
    rw [node?, node?, children_rename, List.getElem?_map]
    rcases p.children[i]? with _ | (_ | q)
    · rfl
    · rfl
    · exact ih q

theorem everywhere_rename {P : Pattern → Prop} {p : Pattern} :
    (p.rename r).Everywhere P ↔ p.Everywhere fun q => P (q.rename r) := by
  constructor
  · intro h site q hq
    exact h site (q.rename r) (by rw [node?_rename, hq]; rfl)
  · intro h site q hq
    rw [node?_rename, Option.map_eq_some_iff] at hq
    obtain ⟨q, hq, rfl⟩ := hq
    exact h site q hq

variable {r}

theorem namesFit_rename (hr : Function.Injective r) {p : Pattern} :
    (p.rename r).NamesFit ↔ p.NamesFit := by
  have hbranches : (∀ b ∈ (p.rename r).branches, b.declared.Perm (p.rename r).declared) ↔
      ∀ b ∈ p.branches, b.declared.Perm p.declared := by
    rw [branches_rename, List.forall_mem_map, declared_rename]
    refine forall₂_congr fun b _ => ?_
    rw [declared_rename]
    exact List.map_perm_map_iff hr
  have hnodup : (p.rename r).declared.Nodup ↔ p.declared.Nodup := by
    rw [declared_rename]
    exact List.nodup_map_iff hr
  exact ⟨fun h => ⟨hnodup.1 h.1, hbranches.1 h.2⟩, fun h => ⟨hnodup.2 h.1, hbranches.2 h.2⟩⟩

theorem rename_eq_alternation_nil {p : Pattern} : p.rename r = alternation [] ↔
    p = alternation [] := by
  cases p with
  | alternation ps => simp [rename, renameAll_eq_map]
  | _ => simp [rename]

theorem rename_eq_conjunction_nil {p : Pattern} : p.rename r = conjunction [] ↔
    p = conjunction [] := by
  cases p with
  | conjunction ps => simp [rename, renameAll_eq_map]
  | _ => simp [rename]

theorem coherent_rename (hr : Function.Injective r) {p : Pattern} :
    (p.rename r).Coherent ↔ p.Coherent := by
  have hwidth : (p.rename r).children.length = p.children.length := by
    rw [children_rename, List.length_map]
  constructor
  · intro h
    exact {
      toNamesFit := (namesFit_rename hr).1 h.toNamesFit
      narrow := hwidth ▸ h.narrow
      ne_alternation := fun he => h.ne_alternation (rename_eq_alternation_nil.2 he)
      ne_conjunction := fun he => h.ne_conjunction (rename_eq_conjunction_nil.2 he)
      keys_nodup := keys_rename r p ▸ h.keys_nodup }
  · intro h
    exact {
      toNamesFit := (namesFit_rename hr).2 h.toNamesFit
      narrow := hwidth ▸ h.narrow
      ne_alternation := fun he => h.ne_alternation (rename_eq_alternation_nil.1 he)
      ne_conjunction := fun he => h.ne_conjunction (rename_eq_conjunction_nil.1 he)
      keys_nodup := (keys_rename r p).symm ▸ h.keys_nodup }

theorem fits_rename (hr : Function.Injective r) {p : Pattern} {level : Nat} :
    (p.rename r).Fits level ↔ p.Fits level := by
  have hcoherent : (p.Everywhere fun q => (q.rename r).Coherent) ↔ p.Everywhere Coherent :=
    ⟨fun h => h.mono fun q => (coherent_rename hr).1, fun h => h.mono fun q => (coherent_rename hr).2⟩
  rw [Fits, Fits, height_rename, everywhere_rename, hcoherent]

/-- A pattern is accepted under other names exactly when it is accepted. -/
theorem exists_compile_rename_iff (hr : Function.Injective r) {p : Pattern} :
    (∃ c, (p.rename r).compile = .ok c) ↔ ∃ c, p.compile = .ok c := by
  rw [exists_compile_iff, exists_compile_iff, fits_rename hr]

end Destructure.Pattern
