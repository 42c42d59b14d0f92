import Mathlib.Data.List.Duplicate
import Mathlib.Data.List.NodupEquivFin
import Destructure.Proofs.Pattern.Acceptance

set_option autoImplicit false

/-! # Why patterns are rejected

The check of a pattern stops at the first defect that it meets, in the middle of a walk on which names
are merged upwards, and reports it without saying where it is. Every such report is about one node,
which is too deep or has a defect of its own (`Pattern.analyze_eq_error`), and so about the tree: what
the error names is there (`Pattern.compile_rejects`). -/

namespace Destructure

/-! ## Names that cannot be added -/

namespace Analysis

variable {a b : Analysis} {e : PatternError}

theorem declare_eq_error {name : String} (h : a.declare name = .error e) :
    name ∈ a.binders ∧ e = .ambiguousBinding name := by
  unfold declare at h
  split at h
  · next hname => exact ⟨hname, (Except.error.inj h).symm⟩
  · cases h

/-- Distinct names cannot all be added when one of them is there already. -/
theorem declareAll_eq_error {names : List String} (hnames : names.Nodup)
    (h : a.declareAll names = .error e) :
    ∃ name ∈ names, name ∈ a.binders ∧ e = .ambiguousBinding name := by
  induction names generalizing a with
  | nil => cases h
  | cons name names ih =>
    obtain ⟨hnew, hnames⟩ := List.nodup_cons.1 hnames
    rw [declareAll, bind_eq_error] at h
    rcases h with h | ⟨c, hc, h⟩
    · exact ⟨name, List.mem_cons_self, declare_eq_error h⟩
    · obtain ⟨-, rfl⟩ := declare_eq_ok.1 hc
      obtain ⟨other, hother, hmem, rfl⟩ := ih hnames h
      refine ⟨other, List.mem_cons_of_mem name hother, ?_, rfl⟩
      -- the names are distinct, so it is not the one that was added just now
      rcases List.mem_append.1 hmem with hmem | hmem
      · exact hmem
      · obtain rfl := List.mem_singleton.1 hmem
        exact absurd hother hnew

theorem declareRest_eq_error {rest : Option String} (h : a.declareRest rest = .error e) :
    ∃ name, rest = some name ∧ name ∈ a.binders ∧ e = .ambiguousBinding name := by
  cases rest with
  | none => cases h
  | some name => exact ⟨name, rfl, declare_eq_error h⟩

theorem sibling_eq_error (hb : b.binders.Nodup) (h : a.sibling b = .error e) :
    ∃ name ∈ b.binders, name ∈ a.binders ∧ e = .ambiguousBinding name := by
  rw [sibling, bind_eq_error] at h
  rcases h with h | ⟨c, -, h⟩
  · exact declareAll_eq_error hb h
  · cases h

end Analysis

namespace Pattern

variable {p : Pattern} {e : PatternError} {level : Nat}

/-! ## Parts that were accepted -/

theorem fits_of_analyze {a : Analysis} (h : p.analyze level = .ok a) :
    p.Fits level ∧ a.binders = p.declared := by
  obtain ⟨hfits, rfl⟩ := (p.analyze_eq_ok level a).1 h
  exact ⟨hfits, rfl⟩

/-- The names of an accepted pattern are those that it declares. -/
theorem Fits.names_iff (h : p.Fits level) {name : String} : p.Names name ↔ name ∈ p.declared :=
  names_iff_mem_declared (everywhere_namesFit_iff.1 (h.2.mono fun _ hq => hq.toNamesFit)).2

/-- The pattern is accepted at a level, and declares these names, which are sorted. -/
def DeclaresAt (level : Nat) (p : Pattern) (names : List String) : Prop :=
  ∃ a, p.analyze level = .ok a ∧ sortNames a.binders = names

/-! ## Lists of parts -/

/-- The name occurs in two of the patterns. -/
def InTwo (ps : List Pattern) (name : String) : Prop :=
  ∃ q r, [q, r].Sublist ps ∧ q.Names name ∧ r.Names name

theorem InTwo.cons {ps : List Pattern} {name : String} (h : InTwo ps name) (p : Pattern) :
    InTwo (p :: ps) name := by
  obtain ⟨q, r, hsublist, hq, hr⟩ := h
  exact ⟨q, r, hsublist.cons p, hq, hr⟩

theorem InTwo.of_mem {ps : List Pattern} {name : String} {q : Pattern} (hp : p.Names name)
    (hq : q ∈ ps) (hname : q.Names name) : InTwo (p :: ps) name :=
  ⟨p, q, (List.singleton_sublist.2 hq).cons_cons p, hp, hname⟩

/-- Parts that match together are rejected as one of them is, or for a name that is there twice. -/
theorem analyzeMembers_eq_error {ps : List Pattern} {a : Analysis} (ha : a.binders.Nodup)
    (h : analyzeMembers ps level a = .error e) :
    (∃ p ∈ ps, p.analyze level = .error e) ∨ ∃ name, e = .ambiguousBinding name ∧
      ((name ∈ a.binders ∧ ∃ p ∈ ps, p.Names name) ∨ InTwo ps name) := by
  induction ps generalizing a with
  | nil => cases h
  | cons p ps ih =>
    rw [analyzeMembers, bind_eq_error] at h
    rcases h with h | ⟨b, hb, h⟩
    · exact .inl ⟨p, List.mem_cons_self, h⟩
    · obtain ⟨hfits, hbinders⟩ := fits_of_analyze hb
      have hnames : ∀ name ∈ b.binders, p.Names name := by
        rw [hbinders]
        exact fun name => hfits.names_iff.2
      rcases bind_eq_error.1 h with h | ⟨c, hc, h⟩
      · have hnodup : b.binders.Nodup := hbinders ▸ hfits.2.root.declared_nodup
        obtain ⟨name, hname, hmem, rfl⟩ := Analysis.sibling_eq_error hnodup h
        exact .inr ⟨name, rfl, .inl ⟨hmem, p, List.mem_cons_self, hnames name hname⟩⟩
      · obtain ⟨hnodup, rfl⟩ := (Analysis.sibling_eq_ok ha).1 hc
        rcases ih hnodup h with ⟨q, hq, h⟩ | ⟨name, rfl, ⟨hmem, q, hq, hname⟩ | htwo⟩
        · exact .inl ⟨q, List.mem_cons_of_mem p hq, h⟩
        · refine .inr ⟨name, rfl, ?_⟩
          -- what was merged so far was there before, or it comes from this part
          rcases List.mem_append.1 hmem with hmem | hmem
          · exact .inl ⟨hmem, q, List.mem_cons_of_mem p hq, hname⟩
          · exact .inr (.of_mem (hnames name hmem) hq hname)
        · exact .inr ⟨name, rfl, .inr (htwo.cons p)⟩

/-- Fields are rejected as their patterns are, or for a key that is there twice. -/
theorem analyzeFields_eq_error {fields : List (String × Pattern)} {seen : List String}
    {a : Analysis} (h : analyzeFields fields level seen a = .error e) :
    analyzeMembers (fields.map (·.2)) level a = .error e ∨ ∃ key, e = .duplicateKey key ∧
      (key ∈ seen ∧ key ∈ fields.map (·.1) ∨ List.Duplicate key (fields.map (·.1))) := by
  induction fields generalizing seen a with
  | nil => cases h
  | cons field fields ih =>
    obtain ⟨key, p⟩ := field
    rw [analyzeFields] at h
    rw [List.map_cons, List.map_cons, analyzeMembers]
    split at h
    · next hseen =>
      exact .inr ⟨key, (Except.error.inj h).symm, .inl ⟨hseen, List.mem_cons_self⟩⟩
    · rcases bind_eq_error.1 h with h | ⟨b, hb, h⟩
      · exact .inl (bind_eq_error.2 (.inl h))
      · rcases bind_eq_error.1 h with h | ⟨c, hc, h⟩
        · exact .inl (bind_eq_error.2 (.inr ⟨b, hb, bind_eq_error.2 (.inl h)⟩))
        · rcases ih h with h | ⟨other, rfl, ⟨hseen, hother⟩ | hother⟩
          · exact .inl (bind_eq_error.2 (.inr ⟨b, hb, bind_eq_error.2 (.inr ⟨c, hc, h⟩)⟩))
          · refine .inr ⟨other, rfl, ?_⟩
            rcases List.mem_cons.1 hseen with rfl | hseen
            · exact .inr (List.Mem.duplicate_cons_self hother)
            · exact .inl ⟨hseen, List.mem_cons_of_mem key hother⟩
          · exact .inr ⟨other, rfl, .inr (hother.duplicate_cons key)⟩

/-- Branches are rejected as one of them is, or for the first one that declares other names. -/
theorem analyzeBranches_eq_error {ps : List Pattern} {expected : List String} {index : Nat}
    {a : Analysis} (h : analyzeBranches ps level expected index a = .error e) :
    (∃ p ∈ ps, p.analyze level = .error e) ∨ ∃ i p found, ps[i]? = some p ∧
      p.DeclaresAt level found ∧ found ≠ expected ∧
      (∀ j q, j < i → ps[j]? = some q → q.DeclaresAt level expected) ∧
      e = .inconsistentAlternation expected found (index + i) := by
  induction ps generalizing index a with
  | nil => cases h
  | cons p ps ih =>
    rw [analyzeBranches, bind_eq_error] at h
    rcases h with h | ⟨b, hb, h⟩
    · exact .inl ⟨p, List.mem_cons_self, h⟩
    · dsimp only at h
      split at h
      · next hfound =>
        refine .inr ⟨0, p, _, rfl, ⟨b, hb, rfl⟩, hfound, ?_, (Except.error.inj h).symm⟩
        exact fun j q hj => absurd hj (Nat.not_lt_zero j)
      · next hfound =>
        rcases ih h with ⟨q, hq, h⟩ | ⟨i, q, found, hq, hother, hne, hbetween, rfl⟩
        · exact .inl ⟨q, List.mem_cons_of_mem p hq, h⟩
        · refine .inr ⟨i + 1, q, found, hq, hother, hne, fun j r hj hr => ?_, ?_⟩
          · cases j with
            | zero =>
              obtain rfl := Option.some.inj hr
              exact ⟨b, hb, not_not.1 hfound⟩
            | succ j => exact hbetween j r (Nat.lt_of_succ_lt_succ hj) hr
          · rw [Nat.add_right_comm, Nat.add_assoc]

/-! ## Nodes -/

/-- The pattern is accepted by itself, and these are the names in it, each of them once and in ascending
order. -/
structure Declares (p : Pattern) (names : List String) : Prop where
  accepted : ∃ c, p.compile = .ok c ∧ c.binders.Perm names
  ascending : names.Pairwise (· < ·)
  mem_iff : ∀ name, name ∈ names ↔ p.Names name

/-- The branch of that number is the first one to declare other names than the first branch. -/
structure Disagree (branches : List Pattern) (expected found : List String) (branch : Nat) :
    Prop where
  first : ∃ b, branches[0]? = some b ∧ b.Declares expected
  other : ∃ b, branches[branch]? = some b ∧ b.Declares found
  between : ∀ i b, i < branch → branches[i]? = some b → b.Declares expected
  differ : ∃ name, ¬ (name ∈ expected ↔ name ∈ found)

/-- The name occurs twice, and no node below the root is above both occurrences: they lie in different
children, or one of them is the root. -/
def Repeats (p : Pattern) (name : String) : Prop :=
  ∃ s t : Site, s.head? ≠ t.head? ∧ p.nameAt? s = some name ∧ p.nameAt? t = some name

/-- What a node is rejected for, whatever its level is. -/
inductive Fault : Pattern → PatternError → Prop where
  | ambiguous {p : Pattern} {name : String} (hp : ∀ branches, p ≠ alternation branches)
    (h : p.Repeats name) : Fault p (.ambiguousBinding name)
  | inconsistent {branches : List Pattern} {expected found : List String} {branch : Nat}
    (h : Disagree branches expected found branch) :
    Fault (alternation branches) (.inconsistentAlternation expected found branch)
  | emptyAlternation : Fault (alternation []) .emptyAlternation
  | emptyConjunction : Fault (conjunction []) .emptyConjunction
  | duplicateKey {fields : List (String × Pattern)} {rest : Option String} {key : String}
    (h : List.Duplicate key (fields.map (·.1))) : Fault (mapping fields rest) (.duplicateKey key)
  | wide {p : Pattern} (h : maxBranches < p.children.length) :
    Fault p (.tooManyBranches p.children.length maxBranches)

theorem DeclaresAt.declares {names : List String} (hlevel : 1 ≤ level)
    (h : p.DeclaresAt level names) : p.Declares names := by
  obtain ⟨a, ha, rfl⟩ := h
  obtain ⟨hfits, hbinders⟩ := fits_of_analyze ha
  have hperm : (sortNames a.binders).Perm p.declared := hbinders ▸ sortNames_perm a.binders
  have hnodup : (sortNames a.binders).Nodup :=
    hperm.nodup_iff.2 hfits.2.root.declared_nodup
  have hfits_one : p.Fits 1 := ⟨Nat.le_trans (Nat.add_le_add_right hlevel _) hfits.1, hfits.2⟩
  obtain ⟨c, hc⟩ := exists_compile_iff.2 hfits_one
  refine ⟨⟨c, hc, ?_⟩, ?_, fun name => ?_⟩
  · rw [c.binders_eq, compile_eq_ok.1 hc]
    exact hperm.symm
  · exact ((sortNames_sorted a.binders).and hnodup).imp fun h => lt_of_le_of_ne h.1 h.2
  · rw [hfits.names_iff, hperm.mem_iff]

/-- Sorted lists of distinct names that are not the same hold different names. -/
theorem exists_not_mem_iff {names others : List String} (hnames : names.Pairwise (· < ·))
    (hothers : others.Pairwise (· < ·)) (hne : others ≠ names) :
    ∃ name, ¬ (name ∈ names ↔ name ∈ others) := by
  by_contra h
  simp only [not_exists, not_not] at h
  have hperm : others.Perm names :=
    (List.perm_ext_iff_of_nodup (hothers.imp ne_of_lt) (hnames.imp ne_of_lt)).2
      fun name => (h name).symm
  exact hne (hperm.eq_of_pairwise (fun a b _ _ => le_antisymm) (hothers.imp le_of_lt)
    (hnames.imp le_of_lt))

/-- Parts one after the other are children one after the other. -/
theorem exists_children_of_sublist {q r : Pattern} (h : [q, r].Sublist p.parts) :
    ∃ i j : Nat, i < j ∧ p.children[i]? = some (some q) ∧ p.children[j]? = some (some r) := by
  have hpairs : p.parts.Pairwise fun q r =>
      ∃ i j : Nat, i < j ∧ p.children[i]? = some (some q) ∧ p.children[j]? = some (some r) :=
    pairwise_parts_iff.2 fun i j hij q r hq hr => ⟨i, j, hij, hq, hr⟩
  exact List.pairwise_iff_forall_sublist.1 hpairs h

theorem InTwo.repeats {name : String} (h : InTwo p.parts name) : p.Repeats name := by
  obtain ⟨q, r, hsublist, ⟨s, hs⟩, t, ht⟩ := h
  obtain ⟨i, j, hij, hq, hr⟩ := exists_children_of_sublist hsublist
  exact ⟨i :: s, j :: t, by simpa using hij.ne, nameAt?_cons.2 ⟨q, hq, hs⟩,
    nameAt?_cons.2 ⟨r, hr, ht⟩⟩

theorem repeats_of_ownName? {name : String} {q : Pattern} (hown : p.ownName? = some name)
    (hq : q ∈ p.parts) (hname : q.Names name) : p.Repeats name := by
  obtain ⟨s, hs⟩ := hname
  obtain ⟨i, hi⟩ := List.mem_iff_getElem?.1 (mem_parts_iff.1 hq)
  exact ⟨[], i :: s, by simp, hown, nameAt?_cons.2 ⟨q, hi, hs⟩⟩

theorem checkLevel_eq_error (h : checkLevel level = .error e) :
    maxDepth < level ∧ e = .depthExceeded level maxDepth := by
  unfold checkLevel at h
  split at h
  · next hdeep => exact ⟨hdeep, (Except.error.inj h).symm⟩
  · cases h

theorem checkLevel_eq_ok {u : Unit} (h : checkLevel level = .ok u) : level ≤ maxDepth := by
  unfold checkLevel at h
  split at h
  · cases h
  · next hlevel => exact Nat.le_of_not_lt hlevel

theorem checkWidth_eq_error {count : Nat} (h : checkWidth count = .error e)
    (hcount : p.children.length = count) : p.Fault e := by
  subst hcount
  unfold checkWidth at h
  split at h
  · next hwide =>
    obtain rfl := Except.error.inj h
    exact .wide hwide
  · cases h

/-- A failure of a node is its own or that of one of its parts. -/
def RejectedAt (p : Pattern) (level : Nat) (e : PatternError) : Prop :=
  p.Fault e ∨ ∃ q ∈ p.parts, q.analyze (level + 1) = .error e

section Nodes

variable (hp : ∀ branches, p ≠ alternation branches)
include hp

theorem rejectedAt_of_members (h : analyzeMembers p.parts (level + 1) (.leaf level) = .error e) :
    p.RejectedAt level e := by
  rcases analyzeMembers_eq_error List.nodup_nil h with h | ⟨name, rfl, ⟨hmem, -⟩ | htwo⟩
  · exact .inr h
  · exact absurd hmem (List.not_mem_nil)
  · exact .inl (.ambiguous hp htwo.repeats)

theorem rejectedAt_of_rest {a : Analysis}
    (ha : analyzeMembers p.parts (level + 1) (.leaf level) = .ok a)
    (h : a.declareRest p.ownName? = .error e) : p.RejectedAt level e := by
  obtain ⟨hfits, -, rfl⟩ := (analyzeMembers_eq_ok (fun q _ => q.analyze_eq_ok (level + 1))
    List.nodup_nil (Nat.le_refl level)).1 ha
  obtain ⟨name, hown, hmem, rfl⟩ := Analysis.declareRest_eq_error h
  obtain ⟨q, hq, hname⟩ := List.mem_flatMap.1 hmem
  exact .inl (.ambiguous hp (repeats_of_ownName? hown hq ((hfits q hq).names_iff.2 hname)))

end Nodes

theorem rejectedAt_of_alternation {branches : List Pattern}
    (h : analyzeAlternation branches level = .error e) : (alternation branches).RejectedAt level e := by
  cases branches with
  | nil =>
    obtain rfl := Except.error.inj h
    exact .inl .emptyAlternation
  | cons first others =>
    simp only [analyzeAlternation, bind_eq_error] at h
    rw [RejectedAt, parts_alternation]
    rcases h with h | ⟨-, -, h | ⟨a, ha, h | ⟨b, -, h⟩⟩⟩
    · exact .inl (checkWidth_eq_error h (by simp [children]))
    · exact .inr ⟨first, List.mem_cons_self, h⟩
    · have hlevel : 1 ≤ level + 1 := Nat.le_add_left 1 level
      have hfirst : first.Declares (sortNames a.binders) := DeclaresAt.declares hlevel ⟨a, ha, rfl⟩
      rcases analyzeBranches_eq_error h with ⟨q, hq, h⟩ | ⟨i, q, found, hq, hfound, hne, hbetween, rfl⟩
      · exact .inr ⟨q, List.mem_cons_of_mem first hq, h⟩
      · have hother := hfound.declares hlevel
        -- the first branch has number 0, and the list of the others begins with number 1
        refine .inl (.inconsistent ⟨⟨first, rfl, hfirst⟩, ⟨q, ?_, hother⟩, fun j r hj hr => ?_, ?_⟩)
        · rw [Nat.add_comm, List.getElem?_cons_succ, hq]
        · cases j with
          | zero =>
            obtain rfl := Option.some.inj hr
            exact hfirst
          | succ j => exact (hbetween j r (by omega) hr).declares hlevel
        · exact exists_not_mem_iff hfirst.ascending hother.ascending hne
    · cases h

/-- A pattern is rejected because its root is too deep, because its root is faulty, or as one of its
parts is. -/
theorem analyze_eq_error (h : p.analyze level = .error e) :
    (maxDepth < level ∧ e = .depthExceeded level maxDepth) ∨
      (level ≤ maxDepth ∧ p.RejectedAt level e) := by
  rw [analyze.eq_def, bind_eq_error] at h
  rcases h with h | ⟨u, hu, h⟩
  · exact .inl (checkLevel_eq_error h)
  · refine .inr ⟨checkLevel_eq_ok hu, ?_⟩
    cases p with
    | literal value | wildcard | predicate test => cases h
    | binder name => exact absurd (Analysis.declare_eq_error h).1 List.not_mem_nil
    | sequence elements rest =>
      simp only [bind_eq_error, analyzeElements_eq] at h
      rcases h with h | ⟨-, -, h | ⟨a, ha, h⟩⟩
      · exact .inl (checkWidth_eq_error h rfl)
      · exact rejectedAt_of_members (by simp) h
      · exact rejectedAt_of_rest (by simp) ha h
    | mapping fields rest =>
      simp only [bind_eq_error] at h
      rcases h with h | ⟨-, -, h | ⟨a, ha, h⟩⟩
      · exact .inl (checkWidth_eq_error h (List.length_map _))
      · rcases analyzeFields_eq_error h with h | ⟨key, rfl, ⟨hseen, -⟩ | hkey⟩
        · exact rejectedAt_of_members (by simp) (by rwa [parts_mapping])
        · exact absurd hseen List.not_mem_nil
        · exact .inl (.duplicateKey hkey)
      · refine rejectedAt_of_rest (by simp) ?_ h
        rw [parts_mapping]
        exact (analyzeFields_eq_ok.1 ha).2
    | alternation branches => exact rejectedAt_of_alternation h
    | conjunction members =>
      simp only at h
      split at h
      · next hempty =>
        obtain rfl := Except.error.inj h
        obtain rfl := List.isEmpty_iff.1 hempty
        exact .inl .emptyConjunction
      · rcases bind_eq_error.1 h with h | ⟨-, -, h⟩
        · exact .inl (checkWidth_eq_error h (List.length_map _))
        · exact rejectedAt_of_members (by simp) (by rwa [parts_conjunction])
    | extractor source inner =>
      simp only [analyzeInner_eq] at h
      exact rejectedAt_of_members (by simp) (by rwa [parts_extractor])
    | regex engine inner =>
      simp only [analyzeInner_eq] at h
      exact rejectedAt_of_members (by simp) (by rwa [parts_regex])

/-- A rejection is about a node, which is faulty by itself or lies on the first level that is too
deep. -/
theorem exists_site_of_analyze (hlevel : level ≤ maxDepth + 1) (h : p.analyze level = .error e) :
    ∃ site q, p.node? site = some q ∧
      (q.Fault e ∨
        e = .depthExceeded (maxDepth + 1) maxDepth ∧ level + site.length = maxDepth + 1) := by
  induction p using partsInduction generalizing level with
  | node p ih =>
    rcases analyze_eq_error h with ⟨hdeep, rfl⟩ | ⟨hshallow, hfault | ⟨q, hq, h⟩⟩
    · -- the levels above were passed, so that this is the first one that is too deep
      obtain rfl : level = maxDepth + 1 := by omega
      exact ⟨[], p, rfl, .inr ⟨rfl, rfl⟩⟩
    · exact ⟨[], p, rfl, .inl hfault⟩
    · have hnext : level + 1 ≤ maxDepth + 1 := Nat.succ_le_succ hshallow
      obtain ⟨site, r, hr, hdefect⟩ := ih q hq hnext h
      obtain ⟨i, hi⟩ := List.mem_iff_getElem?.1 (mem_parts_iff.1 hq)
      refine ⟨i :: site, r, node?_cons.2 ⟨q, hi, hr⟩, hdefect.imp_right ?_⟩
      rintro ⟨rfl, hdeep⟩
      refine ⟨rfl, ?_⟩
      rw [List.length_cons]
      omega

/-! ## Defects of the tree -/

/-- The deepest site above two sites. -/
structure MeetAt (u s t : Site) : Prop where
  above_left : u <+: s
  above_right : u <+: t
  deepest : ∀ v, v <+: s → v <+: t → v <+: u

/-- Ways that part at once have only the root above both of them. -/
theorem meetAt_nil {s t : Site} (h : s.head? ≠ t.head?) : MeetAt [] s t := by
  refine ⟨List.nil_prefix, List.nil_prefix, fun v hs ht => ?_⟩
  cases v with
  | nil => exact List.prefix_rfl
  | cons i v =>
    obtain ⟨s', rfl⟩ := hs
    obtain ⟨t', rfl⟩ := ht
    exact absurd rfl h

/-- Below a node, sites meet where they do in its subtree. -/
theorem MeetAt.below {u s t : Site} (h : MeetAt u s t) (w : Site) :
    MeetAt (w ++ u) (w ++ s) (w ++ t) := by
  refine ⟨(List.prefix_append_right_inj w).2 h.above_left,
    (List.prefix_append_right_inj w).2 h.above_right, fun v hs ht => ?_⟩
  -- a site above both leads to the node or on from it
  rcases Nat.le_total v.length w.length with hle | hle
  · have hw : v <+: w := List.prefix_of_prefix_length_le hs (List.prefix_append w s) hle
    exact hw.trans (List.prefix_append w u)
  · obtain ⟨v, rfl⟩ := List.prefix_of_prefix_length_le (List.prefix_append w s) hs hle
    rw [List.prefix_append_right_inj] at hs ht ⊢
    exact h.deepest v hs ht

/-- Sites that part into different branches of an alternation meet at it. -/
theorem PartAtAlternation.of_meetAt {s t u : Site} (h : p.PartAtAlternation s t)
    (hu : MeetAt u s t) : ∃ branches, p.node? u = some (alternation branches) := by
  obtain ⟨v, i, j, s, t, branches, rfl, rfl, hij, hv⟩ := h
  have hmeet : MeetAt (v ++ []) (v ++ i :: s) (v ++ j :: t) :=
    (meetAt_nil (by simpa using hij)).below v
  rw [List.append_nil] at hmeet
  have huv : u <+: v := hmeet.deepest u hu.above_left hu.above_right
  have hvu : v <+: u := hu.deepest v hmeet.above_left hmeet.above_right
  obtain rfl : u = v := huv.eq_of_length_le hvu.length_le
  exact ⟨branches, hv⟩

/-- The tree has the defect that the error names. -/
def Exhibits (p : Pattern) : PatternError → Prop
  | .ambiguousBinding name =>
    ∃ s t u q, s ≠ t ∧ p.nameAt? s = some name ∧ p.nameAt? t = some name ∧
      MeetAt u s t ∧ p.node? u = some q ∧ ∀ branches, q ≠ alternation branches
  | .inconsistentAlternation expected found branch =>
    ∃ site branches, p.node? site = some (alternation branches) ∧
      Disagree branches expected found branch
  | .emptyAlternation => ∃ site, p.node? site = some (alternation [])
  | .emptyConjunction => ∃ site, p.node? site = some (conjunction [])
  | .duplicateKey key =>
    ∃ site fields rest, p.node? site = some (mapping fields rest) ∧
      ∃ i j : Nat, i < j ∧ ∃ q r, fields[i]? = some (key, q) ∧ fields[j]? = some (key, r)
  | .depthExceeded depth max =>
    max = maxDepth ∧ depth = max + 1 ∧ ∃ site q, p.node? site = some q ∧ site.length + 1 = depth
  | .tooManyBranches count max =>
    max = maxBranches ∧ max < count ∧ ∃ site q, p.node? site = some q ∧ q.children.length = count
  | _ => False

theorem nameAt?_append {q : Pattern} {s : Site} (h : p.node? s = some q) (t : Site) :
    p.nameAt? (s ++ t) = q.nameAt? t := by
  rw [nameAt?, node?_append h, nameAt?]

/-- Keys that are not distinct are those of two fields. -/
theorem exists_fields_of_duplicate {fields : List (String × Pattern)} {key : String}
    (h : List.Duplicate key (fields.map (·.1))) :
    ∃ i j : Nat, i < j ∧ ∃ q r, fields[i]? = some (key, q) ∧ fields[j]? = some (key, r) := by
  obtain ⟨i, j, hij, hi, hj⟩ := List.duplicate_iff_exists_distinct_get.1 h
  have hfield (k : Fin (fields.map (·.1)).length) (hk : key = (fields.map (·.1)).get k) :
      ∃ q, fields[k.1]? = some (key, q) := by
    have hlt : k.1 < fields.length := by simpa using k.2
    refine ⟨fields[k.1].2, ?_⟩
    rw [List.getElem?_eq_getElem hlt, hk]
    simp
  obtain ⟨q, hq⟩ := hfield i hi
  obtain ⟨r, hr⟩ := hfield j hj
  exact ⟨i, j, hij, q, r, hq, hr⟩

/-- A fault of a node is a defect of the tree. -/
theorem Fault.exhibits {q : Pattern} {site : Site} (h : q.Fault e) (hq : p.node? site = some q) :
    p.Exhibits e := by
  cases h with
  | ambiguous hne h =>
    obtain ⟨s, t, hst, hs, ht⟩ := h
    have hmeet : MeetAt (site ++ []) (site ++ s) (site ++ t) := (meetAt_nil hst).below site
    rw [List.append_nil] at hmeet
    -- both occurrences are below the node, and part there
    refine ⟨site ++ s, site ++ t, site, q, fun he => ?_, ?_, ?_, hmeet, hq, hne⟩
    · exact hst (congrArg List.head? (List.append_cancel_left he))
    · rw [nameAt?_append hq, hs]
    · rw [nameAt?_append hq, ht]
  | inconsistent h => exact ⟨site, _, hq, h⟩
  | emptyAlternation => exact ⟨site, hq⟩
  | emptyConjunction => exact ⟨site, hq⟩
  | duplicateKey h => exact ⟨site, _, _, hq, exists_fields_of_duplicate h⟩
  | wide h => exact ⟨rfl, h, site, q, hq, rfl⟩

/-- A tree with such a defect is against the law. -/
theorem Exhibits.not_lawful (h : p.Exhibits e) : ¬ p.Lawful := by
  intro hlawful
  cases e with
  | ambiguousBinding name =>
    obtain ⟨s, t, u, q, hst, hs, ht, hu, hq, hne⟩ := h
    obtain ⟨branches, hbranches⟩ := (hlawful.apart s t name hs ht hst).of_meetAt hu
    exact hne branches (Option.some.inj (hq.symm.trans hbranches))
  | inconsistentAlternation expected found branch =>
    obtain ⟨site, branches, hsite, h⟩ := h
    obtain ⟨b, hb, hexpected⟩ := h.first
    obtain ⟨b', hb', hfound⟩ := h.other
    obtain ⟨name, hname⟩ := h.differ
    have hagree := hlawful.agrees site _ hsite b (List.mem_of_getElem? hb) b'
      (List.mem_of_getElem? hb') name
    rw [← hexpected.mem_iff, ← hfound.mem_iff] at hagree
    exact hname hagree
  | emptyAlternation =>
    obtain ⟨site, hsite⟩ := h
    exact (hlawful.inhabited site).1 hsite
  | emptyConjunction =>
    obtain ⟨site, hsite⟩ := h
    exact (hlawful.inhabited site).2 hsite
  | duplicateKey key =>
    obtain ⟨site, fields, rest, hsite, i, j, hij, q, r, hq, hr⟩ := h
    have hnodup : (fields.map (·.1)).Nodup := hlawful.keys_nodup site _ hsite
    obtain ⟨hi, hq⟩ := List.getElem?_eq_some_iff.1 hq
    obtain ⟨hj, hr⟩ := List.getElem?_eq_some_iff.1 hr
    have hi' : i < (fields.map (·.1)).length := by simpa using hi
    have hj' : j < (fields.map (·.1)).length := by simpa using hj
    have hsame : (fields.map (·.1))[i] = (fields.map (·.1))[j] := by simp [hq, hr]
    exact hij.ne (hnodup.getElem_inj_iff.1 hsame)
  | depthExceeded depth max =>
    obtain ⟨rfl, rfl, site, q, hq, hdeep⟩ := h
    have hshallow := hlawful.shallow site q hq
    omega
  | tooManyBranches count max =>
    obtain ⟨rfl, hwide, site, q, hq, rfl⟩ := h
    exact absurd (hlawful.narrow site q hq) (Nat.not_le_of_lt hwide)
  | _ => exact h

theorem compile_eq_error : p.compile = .error e ↔ p.analyze 1 = .error e := by
  unfold compile
  split
  · next a ha => simp [ha]
  · next e' he' => simp [he']

/-- Every rejection names a defect that the tree has, and every tree with a defect is rejected. -/
theorem compile_rejects (p : Pattern) :
    (∀ e, p.compile = .error e → p.Exhibits e) ∧
      ((∃ e, p.compile = .error e) ↔ ∃ e, p.Exhibits e) := by
  have hexhibits : ∀ e, p.compile = .error e → p.Exhibits e := by
    intro e h
    have hlevel : 1 ≤ maxDepth + 1 := Nat.le_add_left 1 maxDepth
    obtain ⟨site, q, hq, hfault | ⟨rfl, hdeep⟩⟩ :=
      exists_site_of_analyze hlevel (compile_eq_error.1 h)
    · exact hfault.exhibits hq
    · exact ⟨rfl, rfl, site, q, hq, by omega⟩
  refine ⟨hexhibits, fun ⟨e, h⟩ => ⟨e, hexhibits e h⟩, fun ⟨e, h⟩ => ?_⟩
  cases hc : p.compile with
  | error e => exact ⟨e, rfl⟩
  | ok c => exact absurd ((compile_law p).1.1 ⟨c, hc⟩) h.not_lawful

/-- An alternation whose last branch lacks the name of the others, beside a rest of that name. -/
def strayBranch : Pattern :=
  sequence [none, some (alternation [conjunction [wildcard, binder "x"],
    sequence [none] (some "x"), wildcard])] (some "x")

theorem compile_rejects_strayBranch :
    strayBranch.compile = .error (.inconsistentAlternation ["x"] [] 2) ∧
      strayBranch.Exhibits (.inconsistentAlternation ["x"] [] 2) ∧ ¬ strayBranch.Lawful := by
  have hcompile : strayBranch.compile = .error (.inconsistentAlternation ["x"] [] 2) :=
    compile_eq_error.2 (by cbv)
  have hexhibits := (compile_rejects strayBranch).1 _ hcompile
  exact ⟨hcompile, hexhibits, hexhibits.not_lawful⟩

end Pattern

end Destructure
