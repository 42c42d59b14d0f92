import Mathlib.Data.List.Nodup
import Mathlib.Data.String.Basic
import Destructure.Pattern.Compiled
import Destructure.Proofs.Pattern.Tree
import Destructure.Proofs.Run

set_option autoImplicit false

/-! # What the check of a pattern accepts

`Pattern.analyze` merges lists of names on its way up the tree and keeps only those of the first
branch of an alternation. Here its success is turned into conditions on the nodes
(`Pattern.Coherent`) and a bound on the height, and its result into the declared names and the level
of the deepest node (`Pattern.analyze_eq_ok`). -/

namespace Destructure

/-! ## Merging names -/

namespace Analysis

theorem declare_eq_ok {a b : Analysis} {name : String} :
    a.declare name = .ok b ↔ name ∉ a.binders ∧ b = ⟨a.binders ++ [name], a.depth⟩ := by
  unfold declare
  split
  · next h => simp [h]
  · next h => simp [h, eq_comm]

/-- Names can be added to distinct ones when all of them together are distinct. -/
theorem declareAll_eq_ok {a b : Analysis} {names : List String} (ha : a.binders.Nodup) :
    a.declareAll names = .ok b ↔
      (a.binders ++ names).Nodup ∧ b = ⟨a.binders ++ names, a.depth⟩ := by
  induction names generalizing a with
  | nil => simp [declareAll, ha, eq_comm]
  | cons name names ih =>
    have happend : a.binders ++ name :: names = a.binders ++ [name] ++ names := by simp
    rw [declareAll, bind_eq_ok, happend]
    constructor
    · rintro ⟨c, hc, hrest⟩
      obtain ⟨hname, rfl⟩ := declare_eq_ok.1 hc
      have hnodup : (a.binders ++ [name]).Nodup := List.nodup_append.2
        ⟨ha, List.nodup_singleton name, by simpa using fun n hn (he : n = name) => hname (he ▸ hn)⟩
      exact (ih hnodup).1 hrest
    · rintro ⟨hnodup, rfl⟩
      have hname : name ∉ a.binders := fun hmem =>
        (List.nodup_append.1 hnodup.of_append_left).2.2 name hmem name (by simp) rfl
      refine ⟨_, declare_eq_ok.2 ⟨hname, rfl⟩, ?_⟩
      exact (ih hnodup.of_append_left).2 ⟨hnodup, rfl⟩

theorem declareRest_eq_ok {a b : Analysis} {rest : Option String} (ha : a.binders.Nodup) :
    a.declareRest rest = .ok b ↔
      (a.binders ++ rest.toList).Nodup ∧ b = ⟨a.binders ++ rest.toList, a.depth⟩ := by
  rw [← declareAll_eq_ok ha]
  cases rest with
  | none => rfl
  | some name => simp [declareRest, declareAll, bind_eq_ok]

theorem sibling_eq_ok {a b c : Analysis} (ha : a.binders.Nodup) :
    a.sibling b = .ok c ↔
      (a.binders ++ b.binders).Nodup ∧ c = ⟨a.binders ++ b.binders, max a.depth b.depth⟩ := by
  rw [sibling, bind_eq_ok]
  constructor
  · rintro ⟨d, hd, hc⟩
    obtain ⟨hnodup, rfl⟩ := (declareAll_eq_ok ha).1 hd
    exact ⟨hnodup, (Except.ok.inj hc).symm⟩
  · rintro ⟨hnodup, rfl⟩
    exact ⟨_, (declareAll_eq_ok ha).2 ⟨hnodup, rfl⟩, rfl⟩

end Analysis

theorem sortNames_perm (names : List String) : (sortNames names).Perm names :=
  List.mergeSort_perm names _

theorem sortNames_sorted (names : List String) : (sortNames names).Pairwise (· ≤ ·) := by
  have hle (a b : String) : (!decide (b < a)) = true ↔ a ≤ b := by
    simp only [Bool.not_eq_true', decide_eq_false_iff_not, not_lt]
  refine (List.pairwise_mergeSort ?_ ?_ names).imp fun {a b} h => (hle a b).1 h
  · intro a b c hab hbc
    exact (hle a c).2 (le_trans ((hle a b).1 hab) ((hle b c).1 hbc))
  · intro a b
    simp only [Bool.or_eq_true, hle, le_total]

/-- Lists of names are equal once sorted when they hold the same names equally often. -/
theorem sortNames_eq_iff {names others : List String} :
    sortNames names = sortNames others ↔ names.Perm others := by
  constructor
  · intro h
    exact (sortNames_perm names).symm.trans (h ▸ sortNames_perm others)
  · intro h
    exact ((sortNames_perm names).trans (h.trans (sortNames_perm others).symm)).eq_of_pairwise
      (fun a b _ _ => le_antisymm) (sortNames_sorted names) (sortNames_sorted others)

namespace Pattern

/-! ## What is demanded of the nodes -/

/-- What the check demands of the names of a node. -/
structure NamesFit (p : Pattern) : Prop where
  declared_nodup : p.declared.Nodup
  branches_perm : ∀ b ∈ p.branches, b.declared.Perm p.declared

/-- What the check demands of a node, whatever its level. -/
structure Coherent (p : Pattern) : Prop extends NamesFit p where
  narrow : p.children.length ≤ maxBranches
  ne_alternation : p ≠ alternation []
  ne_conjunction : p ≠ conjunction []
  keys_nodup : p.keys.Nodup

/-- The check accepts the pattern at that level. -/
def Fits (p : Pattern) (level : Nat) : Prop :=
  level + p.height ≤ maxDepth + 1 ∧ p.Everywhere Coherent

/-- What the check reports of a pattern that it accepts at that level. -/
def analysis (p : Pattern) (level : Nat) : Analysis := ⟨p.declared, level + p.height - 1⟩

/-- The depths of several parts can be taken one after the other. -/
theorem max_depth_cons (p : Pattern) (ps : List Pattern) (level depth : Nat) :
    max (max depth (p.analysis (level + 1)).depth) (level + maxHeight ps)
      = max depth (level + maxHeight (p :: ps)) := by
  rw [maxHeight_cons]
  simp only [analysis]
  omega

/-- A tree is not too deep from a level on when its root is not and its parts are not from the next
level on. -/
theorem level_add_height_le_iff {p : Pattern} {level : Nat} :
    level + p.height ≤ maxDepth + 1 ↔
      level ≤ maxDepth ∧ ∀ q ∈ p.parts, level + 1 + q.height ≤ maxDepth + 1 := by
  have hparts := @maxHeight_le_iff p.parts (maxDepth - level)
  rw [height_eq]
  constructor
  · intro h
    refine ⟨by omega, fun q hq => ?_⟩
    have hq := hparts.1 (by omega) q hq
    omega
  · rintro ⟨hlevel, hq⟩
    have hmax := hparts.2 fun q hmem => by have := hq q hmem; omega
    omega

/-- A pattern fits at a level when its root is coherent and its parts fit one level below. -/
theorem fits_iff {p : Pattern} {level : Nat} :
    p.Fits level ↔ level ≤ maxDepth ∧ p.Coherent ∧ ∀ q ∈ p.parts, q.Fits (level + 1) := by
  rw [Fits, level_add_height_le_iff, everywhere_iff]
  constructor
  · rintro ⟨⟨hlevel, hq⟩, hroot, hparts⟩
    exact ⟨hlevel, hroot, fun q hmem => ⟨hq q hmem, hparts q hmem⟩⟩
  · rintro ⟨hlevel, hroot, hparts⟩
    exact ⟨⟨hlevel, fun q hmem => (hparts q hmem).1⟩, hroot, fun q hmem => (hparts q hmem).2⟩

/-- A pattern fits below a root when it fits, and there is room for one more level. -/
theorem fits_two_iff {p : Pattern} : p.Fits 2 ↔ p.Fits 1 ∧ p.height < maxDepth := by
  rw [Fits, Fits]
  constructor
  · rintro ⟨hdepth, hcoherent⟩
    exact ⟨⟨by omega, hcoherent⟩, by omega⟩
  · rintro ⟨⟨-, hcoherent⟩, hdepth⟩
    exact ⟨by omega, hcoherent⟩

/-- The node has no more children than the check allows. -/
def Narrow (p : Pattern) : Prop := p.children.length ≤ maxBranches

/-- What the check demands of a node, whatever its level and its width. -/
structure Tidy (p : Pattern) : Prop extends NamesFit p where
  ne_alternation : p ≠ alternation []
  ne_conjunction : p ≠ conjunction []
  keys_nodup : p.keys.Nodup

theorem coherent_iff {p : Pattern} : p.Coherent ↔ p.Tidy ∧ p.Narrow := by
  constructor
  · exact fun h => ⟨⟨h.toNamesFit, h.ne_alternation, h.ne_conjunction, h.keys_nodup⟩, h.narrow⟩
  · exact fun ⟨h, hnarrow⟩ =>
      ⟨h.toNamesFit, hnarrow, h.ne_alternation, h.ne_conjunction, h.keys_nodup⟩

/-- Apart from alternations and mappings, all that counts is that the names of a node are distinct. -/
theorem tidy_iff_nodup {p : Pattern} (halternation : ∀ branches, p ≠ alternation branches)
    (hkeys : p.keys = []) (hconjunction : p ≠ conjunction []) : p.Tidy ↔ p.declared.Nodup := by
  refine ⟨fun h => h.declared_nodup, fun h => ?_⟩
  exact {
    declared_nodup := h
    branches_perm := by simp [branches_of_ne_alternation halternation]
    ne_alternation := halternation []
    ne_conjunction := hconjunction
    keys_nodup := hkeys ▸ List.nodup_nil }

/-! ## Lists of parts -/

/-- The elements of a sequence are checked as its parts are. -/
theorem analyzeElements_eq (elements : List (Option Pattern)) (level : Nat) (a : Analysis) :
    analyzeElements elements level a = analyzeMembers elements.reduceOption level a := by
  induction elements generalizing a with
  | nil => rfl
  | cons element elements ih =>
    cases element with
    | none => exact ih a
    | some p =>
      rw [List.reduceOption_cons_of_some, analyzeElements, analyzeMembers]
      simp only [ih]

/-- What an extractor hands over is checked as its part is. -/
theorem analyzeInner_eq (inner : Option Pattern) (level : Nat) (a : Analysis) :
    analyzeInner inner level a = analyzeMembers inner.toList level a := by
  cases inner with
  | none => rfl
  | some p =>
    simp only [Option.toList_some, analyzeInner, analyzeMembers]
    rcases p.analyze level with e | b
    · rfl
    · show a.sibling b = a.sibling b >>= Except.ok
      rcases a.sibling b with e | c <;> rfl

/-- The fields of a mapping are checked as its parts are, if their keys are new and distinct. -/
theorem analyzeFields_eq_ok {fields : List (String × Pattern)} {level : Nat} {seen : List String}
    {a b : Analysis} :
    analyzeFields fields level seen a = .ok b ↔
      ((fields.map (·.1)).Nodup ∧ ∀ key ∈ fields.map (·.1), key ∉ seen) ∧
        analyzeMembers (fields.map (·.2)) level a = .ok b := by
  induction fields generalizing seen a with
  | nil => simp [analyzeFields, analyzeMembers]
  | cons field fields ih =>
    obtain ⟨key, p⟩ := field
    simp only [analyzeFields, analyzeMembers, List.map_cons, List.nodup_cons, List.forall_mem_cons]
    split
    · next hkey => simp [hkey]
    · next hkey =>
      -- the rest must avoid the keys seen before and also the key of this field
      simp only [bind_eq_ok, ih]
      constructor
      · rintro ⟨c, hc, d, hd, ⟨hnodup, hseen⟩, hrest⟩
        refine ⟨⟨⟨fun hmem => ?_, hnodup⟩, hkey, fun k hk => ?_⟩, c, hc, d, hd, hrest⟩
        · exact hseen key hmem (List.mem_cons_self ..)
        · exact fun hmem => hseen k hk (List.mem_cons_of_mem _ hmem)
      · rintro ⟨⟨⟨hnew, hnodup⟩, -, hseen⟩, c, hc, d, hd, hrest⟩
        refine ⟨c, hc, d, hd, ⟨hnodup, fun k hk hmem => ?_⟩, hrest⟩
        rcases List.mem_cons.1 hmem with rfl | hmem
        · exact hnew hk
        · exact hseen k hk hmem

/-- The check of a pattern says what it should, at one level. -/
def Checked (level : Nat) (p : Pattern) : Prop :=
  ∀ a, p.analyze level = .ok a ↔ p.Fits level ∧ a = p.analysis level

/-- Parts that match together are accepted when each of them is and no name comes twice. -/
theorem analyzeMembers_eq_ok {ps : List Pattern} {level : Nat} {a b : Analysis}
    (hps : ∀ p ∈ ps, p.Checked (level + 1)) (ha : a.binders.Nodup) (hlevel : level ≤ a.depth) :
    analyzeMembers ps (level + 1) a = .ok b ↔
      (∀ p ∈ ps, p.Fits (level + 1)) ∧ (a.binders ++ ps.flatMap declared).Nodup ∧
        b = ⟨a.binders ++ ps.flatMap declared, max a.depth (level + maxHeight ps)⟩ := by
  induction ps generalizing a with
  | nil => simp [analyzeMembers, ha, eq_comm, Nat.max_eq_left hlevel]
  | cons p ps ih =>
    have hp := hps p (List.mem_cons_self ..)
    have hrest := fun q hq => hps q (List.mem_cons_of_mem p hq)
    have happend : a.binders ++ (p :: ps).flatMap declared
        = a.binders ++ p.declared ++ ps.flatMap declared := by
      rw [List.flatMap_cons, List.append_assoc]
    rw [analyzeMembers, bind_eq_ok, List.forall_mem_cons, happend, ← max_depth_cons]
    constructor
    · rintro ⟨c, hc, hmore⟩
      obtain ⟨hfits, rfl⟩ := (hp c).1 hc
      obtain ⟨d, hd, hmore⟩ := bind_eq_ok.1 hmore
      obtain ⟨hnodup, rfl⟩ := (Analysis.sibling_eq_ok ha).1 hd
      obtain ⟨hall, hnodup, rfl⟩ := (ih hrest hnodup (le_max_of_le_left hlevel)).1 hmore
      exact ⟨⟨hfits, hall⟩, hnodup, rfl⟩
    · rintro ⟨⟨hfits, hall⟩, hnodup, rfl⟩
      have hfirst : (a.binders ++ p.declared).Nodup := hnodup.of_append_left
      refine ⟨_, (hp _).2 ⟨hfits, rfl⟩, bind_eq_ok.2 ?_⟩
      refine ⟨_, (Analysis.sibling_eq_ok ha).2 ⟨hfirst, rfl⟩, ?_⟩
      exact (ih hrest hfirst (le_max_of_le_left hlevel)).2 ⟨hall, hnodup, rfl⟩

/-- Branches are accepted when each of them is and declares the expected names in some order. -/
theorem analyzeBranches_eq_ok {ps : List Pattern} {level index : Nat} {names : List String}
    {a b : Analysis} (hps : ∀ p ∈ ps, p.Checked (level + 1)) (hlevel : level ≤ a.depth) :
    analyzeBranches ps (level + 1) (sortNames names) index a = .ok b ↔
      (∀ p ∈ ps, p.Fits (level + 1) ∧ p.declared.Perm names) ∧
        b = ⟨a.binders, max a.depth (level + maxHeight ps)⟩ := by
  induction ps generalizing a index with
  | nil => simp [analyzeBranches, eq_comm, Nat.max_eq_left hlevel]
  | cons p ps ih =>
    have hp := hps p (List.mem_cons_self ..)
    have hrest := fun q hq => hps q (List.mem_cons_of_mem p hq)
    rw [analyzeBranches, bind_eq_ok, List.forall_mem_cons, ← max_depth_cons]
    constructor
    · rintro ⟨c, hc, hmore⟩
      obtain ⟨hfits, rfl⟩ := (hp c).1 hc
      by_cases hnames : sortNames (p.analysis (level + 1)).binders = sortNames names
      · rw [if_neg (not_not.2 hnames)] at hmore
        obtain ⟨hall, rfl⟩ := (ih hrest (le_max_of_le_left hlevel)).1 hmore
        exact ⟨⟨⟨hfits, sortNames_eq_iff.1 hnames⟩, hall⟩, rfl⟩
      · rw [if_pos hnames] at hmore
        exact absurd hmore (by simp)
    · rintro ⟨⟨⟨hfits, hperm⟩, hall⟩, rfl⟩
      have hnames : sortNames (p.analysis (level + 1)).binders = sortNames names :=
        sortNames_eq_iff.2 hperm
      refine ⟨_, (hp _).2 ⟨hfits, rfl⟩, ?_⟩
      rw [if_neg (not_not.2 hnames)]
      exact (ih hrest (le_max_of_le_left hlevel)).2 ⟨hall, rfl⟩

/-! ## Nodes -/

theorem checkLevel_bind_eq_ok {level : Nat} {rest : Except PatternError Analysis} {a : Analysis} :
    (checkLevel level >>= fun _ => rest) = .ok a ↔ level ≤ maxDepth ∧ rest = .ok a := by
  unfold checkLevel
  split
  · next h => simp [bind_eq_ok, h]
  · next h => simp [bind_eq_ok, Nat.le_of_not_lt h]

theorem checkWidth_bind_eq_ok {count : Nat} {rest : Except PatternError Analysis} {a : Analysis} :
    (checkWidth count >>= fun _ => rest) = .ok a ↔ count ≤ maxBranches ∧ rest = .ok a := by
  unfold checkWidth
  split
  · next h => simp [bind_eq_ok, h]
  · next h => simp [bind_eq_ok, Nat.le_of_not_lt h]

/-- All nodes but alternations are checked in the same way: the parts match together, and the name
of the node comes last. -/
theorem analyze_eq_ok_of_ne_alternation {p : Pattern} {level : Nat} {a : Analysis}
    (hp : ∀ branches, p ≠ alternation branches) :
    p.analyze level = .ok a ↔
      level ≤ maxDepth ∧ p.children.length ≤ maxBranches ∧ p ≠ conjunction [] ∧ p.keys.Nodup ∧
        ∃ b, analyzeMembers p.parts (level + 1) (.leaf level) = .ok b ∧
          b.declareRest p.ownName? = .ok a := by
  have hrest (o : Except PatternError Analysis) :
      (∃ b, o = .ok b ∧ b.declareRest none = .ok a) ↔ o = .ok a := by
    simp [Analysis.declareRest]
  cases p with
  | alternation branches => exact absurd rfl (hp branches)
  | literal value | wildcard | predicate test =>
    rw [analyze, checkLevel_bind_eq_ok]
    simp [children, keys, ownName?, analyzeMembers, Analysis.declareRest]
  | binder name =>
    rw [analyze, checkLevel_bind_eq_ok]
    simp [children, keys, ownName?, analyzeMembers, Analysis.declareRest]
  | sequence elements rest =>
    rw [analyze, checkLevel_bind_eq_ok, checkWidth_bind_eq_ok, bind_eq_ok, parts_sequence,
      ← analyzeElements_eq]
    simp [children, keys, ownName?]
  | mapping fields rest =>
    rw [analyze, checkLevel_bind_eq_ok, checkWidth_bind_eq_ok, bind_eq_ok, parts_mapping]
    simp [children, keys, ownName?, analyzeFields_eq_ok, and_assoc]
  | conjunction members =>
    rw [analyze, checkLevel_bind_eq_ok, parts_conjunction]
    cases members with
    | nil => simp
    | cons first others =>
      simp only [List.isEmpty_cons, Bool.false_eq_true, ite_false, checkWidth_bind_eq_ok]
      simp [children, keys, ownName?, hrest]
  | extractor source inner =>
    rw [analyze, checkLevel_bind_eq_ok, analyzeInner_eq, parts_extractor]
    cases inner <;> simp [children, keys, ownName?, hrest, maxBranches]
  | regex engine inner =>
    rw [analyze, checkLevel_bind_eq_ok, analyzeInner_eq, parts_regex]
    cases inner <;> simp [children, keys, ownName?, hrest, maxBranches]

theorem checked_of_ne_alternation {p : Pattern} {level : Nat}
    (hp : ∀ branches, p ≠ alternation branches) (hparts : ∀ q ∈ p.parts, q.Checked (level + 1)) :
    p.Checked level := by
  intro a
  -- the parts are merged into the analysis of a leaf at this level
  have hmembers (b : Analysis) := @analyzeMembers_eq_ok p.parts level (.leaf level) b hparts
    List.nodup_nil (Nat.le_refl level)
  have hdeclared := declared_of_ne_alternation hp
  have hanalysis : p.analysis level = ⟨p.declared, max level (level + maxHeight p.parts)⟩ := by
    rw [analysis, height_eq]
    congr 1
    omega
  rw [analyze_eq_ok_of_ne_alternation hp, fits_iff, hanalysis, hdeclared]
  constructor
  · rintro ⟨hlevel, hwidth, hmember, hkeys, b, hb, ha⟩
    obtain ⟨hfits, hnodup, rfl⟩ := (hmembers b).1 hb
    obtain ⟨hall, rfl⟩ := (Analysis.declareRest_eq_ok hnodup).1 ha
    refine ⟨⟨hlevel, ⟨⟨?_, ?_⟩, hwidth, hp [], hmember, hkeys⟩, hfits⟩, rfl⟩
    · rw [hdeclared]; exact hall
    · simp [branches_of_ne_alternation hp]
  · rintro ⟨⟨hlevel, hroot, hfits⟩, rfl⟩
    have hall : (p.parts.flatMap declared ++ p.ownName?.toList).Nodup :=
      hdeclared ▸ hroot.declared_nodup
    refine ⟨hlevel, hroot.narrow, hroot.ne_conjunction, hroot.keys_nodup, _,
      (hmembers _).2 ⟨hfits, hall.of_append_left, rfl⟩, ?_⟩
    exact (Analysis.declareRest_eq_ok hall.of_append_left).2 ⟨hall, rfl⟩

theorem checked_alternation {ps : List Pattern} {level : Nat}
    (hps : ∀ p ∈ ps, p.Checked (level + 1)) : (alternation ps).Checked level := by
  intro a
  rw [analyze, checkLevel_bind_eq_ok, fits_iff, parts_alternation]
  cases ps with
  | nil =>
    simp only [analyzeAlternation]
    constructor
    · rintro ⟨-, h⟩; exact absurd h (by simp)
    · rintro ⟨⟨-, hroot, -⟩, -⟩; exact absurd rfl hroot.ne_alternation
  | cons first others =>
    have hfirst := hps first (List.mem_cons_self ..)
    have hothers := fun q hq => hps q (List.mem_cons_of_mem first hq)
    have hdepth : level ≤ (first.analysis (level + 1)).depth := by
      simp only [analysis]; omega
    have hanalysis : (alternation (first :: others)).analysis level = ⟨first.declared,
        max (max (first.analysis (level + 1)).depth (level + maxHeight others)) level⟩ := by
      rw [analysis, height_eq, declared_alternation, parts_alternation, maxHeight_cons]
      simp only [analysis]
      congr 1
      omega
    -- the first branch is checked by itself, the others against its names
    rw [analyzeAlternation, checkWidth_bind_eq_ok, bind_eq_ok, List.forall_mem_cons, hanalysis]
    constructor
    · rintro ⟨hlevel, hwidth, b, hb, hmore⟩
      obtain ⟨hfits, rfl⟩ := (hfirst b).1 hb
      obtain ⟨c, hc, hmore⟩ := bind_eq_ok.1 hmore
      obtain ⟨hall, rfl⟩ := (analyzeBranches_eq_ok hothers hdepth).1 hc
      refine ⟨⟨hlevel, ⟨⟨?_, ?_⟩, ?_, by simp, by simp, List.nodup_nil⟩, hfits, ?_⟩, ?_⟩
      · rw [declared_alternation]; exact (hfits.2.root).declared_nodup
      · rw [declared_alternation]
        exact List.forall_mem_cons.2 ⟨List.Perm.refl _, fun q hq => (hall q hq).2⟩
      · simpa [children] using hwidth
      · exact fun q hq => (hall q hq).1
      · exact (Except.ok.inj hmore).symm
    · rintro ⟨⟨hlevel, hroot, hfits, hall⟩, rfl⟩
      refine ⟨hlevel, by simpa [children] using hroot.narrow, _, (hfirst _).2 ⟨hfits, rfl⟩, ?_⟩
      refine bind_eq_ok.2 ⟨_, (analyzeBranches_eq_ok hothers hdepth).2 ⟨fun q hq => ?_, rfl⟩, rfl⟩
      have hperm := hroot.branches_perm q (List.mem_cons_of_mem _ hq)
      rw [declared_alternation] at hperm
      exact ⟨hall q hq, hperm⟩

/-! ## The whole check -/

/-- The check accepts the patterns that fit, and reports their declared names and the level of their
deepest node. -/
theorem analyze_eq_ok (p : Pattern) (level : Nat) : p.Checked level := by
  induction p using partsInduction generalizing level with
  | node p ih =>
    cases p with
    | alternation branches =>
      exact checked_alternation fun q hq => ih q (by simpa using hq) (level + 1)
    | _ => exact checked_of_ne_alternation (by simp) fun q hq => ih q hq (level + 1)

/-- Compiling a pattern yields what was checked and nothing else. -/
theorem compile_eq_ok {p : Pattern} {c : Compiled} : p.compile = .ok c ↔ c.pattern = p := by
  constructor
  · intro h
    unfold compile at h
    split at h
    · obtain rfl := Except.ok.inj h
      rfl
    · exact absurd h (by simp)
  · rintro rfl
    obtain ⟨p, names, depth, haccepted⟩ := c
    unfold compile
    split
    · next a ha =>
      obtain rfl := Except.ok.inj (haccepted.symm.trans ha)
      rfl
    · next e he => exact absurd (haccepted.symm.trans he) (by simp)

theorem exists_compile_iff {p : Pattern} : (∃ c, p.compile = .ok c) ↔ p.Fits 1 := by
  constructor
  · rintro ⟨c, hc⟩
    obtain rfl := compile_eq_ok.1 hc
    exact ((analyze_eq_ok c.pattern 1 _).1 c.accepted).1
  · intro h
    exact ⟨⟨p, _, _, (analyze_eq_ok p 1 _).2 ⟨h, rfl⟩⟩, compile_eq_ok.2 rfl⟩

end Pattern

namespace Compiled

theorem fits (c : Compiled) : c.pattern.Fits 1 :=
  ((Pattern.analyze_eq_ok c.pattern 1 _).1 c.accepted).1

theorem analysis_eq (c : Compiled) : ⟨c.binders, c.depth⟩ = c.pattern.analysis 1 :=
  ((Pattern.analyze_eq_ok c.pattern 1 _).1 c.accepted).2

/-- The binders of a compiled pattern are its declared names. -/
theorem binders_eq (c : Compiled) : c.binders = c.pattern.declared :=
  congrArg Analysis.binders c.analysis_eq

/-- The depth of a compiled pattern is its height. -/
theorem depth_eq (c : Compiled) : c.depth = c.pattern.height := by
  have h := congrArg Analysis.depth c.analysis_eq
  simp only [Pattern.analysis] at h
  omega

end Compiled

end Destructure
