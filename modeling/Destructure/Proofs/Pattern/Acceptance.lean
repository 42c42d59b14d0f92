import Destructure.Proofs.Pattern.Analysis

set_option autoImplicit false

/-! # The law of accepted patterns

The check compares lists of names node by node. The law that it enforces is about the tree as a
whole: wherever two nodes bind the same name, the deepest node above both is an alternation and they
lie in different branches of it, and the branches of every alternation bind the same names.
`Pattern.Lawful` states it, with the limits on size, and `Pattern.compile_law` that exactly the
lawful patterns are accepted. -/

namespace Destructure.Pattern

/-! ## Occurrences of names -/

/-- The name that the node at a site binds by itself. -/
def nameAt? (p : Pattern) (site : Site) : Option String := (p.node? site).bind ownName?

/-- The name occurs somewhere in the pattern. -/
def Names (p : Pattern) (name : String) : Prop := ∃ site, p.nameAt? site = some name

/-- The deepest node above two sites is an alternation, and they lie in different branches of it. -/
def PartAtAlternation (p : Pattern) (s t : Site) : Prop :=
  ∃ u i j s' t' branches, s = u ++ i :: s' ∧ t = u ++ j :: t' ∧ i ≠ j ∧
    p.node? u = some (alternation branches)

/-- Any two occurrences of one name lie in different branches of an alternation. -/
def Apart (p : Pattern) : Prop :=
  ∀ s t name, p.nameAt? s = some name → p.nameAt? t = some name → s ≠ t → p.PartAtAlternation s t

/-- In every alternation all branches have the same names. -/
def Agrees (p : Pattern) : Prop :=
  p.Everywhere fun q => ∀ b ∈ q.branches, ∀ b' ∈ q.branches, ∀ name, b.Names name ↔ b'.Names name

theorem nameAt?_cons {p : Pattern} {i : Nat} {site : Site} {name : String} :
    p.nameAt? (i :: site) = some name ↔
      ∃ q, p.children[i]? = some (some q) ∧ q.nameAt? site = some name := by
  simp only [nameAt?, Option.bind_eq_some_iff, node?_cons]
  constructor
  · rintro ⟨r, ⟨q, hq, hr⟩, hname⟩
    exact ⟨q, hq, r, hr, hname⟩
  · rintro ⟨q, hq, r, hr, hname⟩
    exact ⟨r, ⟨q, hq, hr⟩, hname⟩

/-- A name occurs in a pattern as that of the root or in a part. -/
theorem names_iff {p : Pattern} {name : String} :
    p.Names name ↔ p.ownName? = some name ∨ ∃ q ∈ p.parts, q.Names name := by
  constructor
  · rintro ⟨site, hsite⟩
    cases site with
    | nil => exact .inl hsite
    | cons i site =>
      obtain ⟨q, hq, hname⟩ := nameAt?_cons.1 hsite
      exact .inr ⟨q, mem_parts_of_getElem? hq, site, hname⟩
  · rintro (hown | ⟨q, hq, site, hname⟩)
    · exact ⟨[], hown⟩
    · obtain ⟨i, hi⟩ := List.mem_iff_getElem?.1 (mem_parts_iff.1 hq)
      exact ⟨i :: site, nameAt?_cons.2 ⟨q, hi, hname⟩⟩

/-- Where branches agree, the walk over the declarations meets every name that occurs. -/
theorem names_iff_mem_declared {p : Pattern} (h : p.Agrees) {name : String} :
    p.Names name ↔ name ∈ p.declared := by
  induction p using partsInduction with
  | node p ih =>
    have hparts : ∀ q ∈ p.parts, (q.Names name ↔ name ∈ q.declared) :=
      fun q hq => ih q hq (h.part hq)
    cases p with
    | alternation ps =>
      cases ps with
      | nil => rw [names_iff]; simp [ownName?, declared_eq, walked]
      | cons first others =>
        have hfirst : first ∈ (alternation (first :: others)).branches := List.mem_cons_self ..
        rw [declared_alternation, ← hparts first (branches_subset_parts _ hfirst), names_iff]
        constructor
        · rintro (hown | ⟨q, hq, hname⟩)
          · exact absurd hown (by simp [ownName?])
          · exact (h.root q (by simpa [branches] using hq) first hfirst name).1 hname
        · exact fun hname => .inr ⟨first, branches_subset_parts _ hfirst, hname⟩
    | _ =>
      rw [declared_of_ne_alternation (by simp), names_iff, List.mem_append, List.mem_flatMap,
        or_comm]
      refine or_congr (exists_congr fun q => and_congr_right fun hq => hparts q hq) ?_
      exact Option.mem_toList.symm

/-! ## Where occurrences part -/

/-- Nothing parts from the root. -/
theorem not_partAtAlternation_nil {p : Pattern} {t : Site} : ¬ p.PartAtAlternation [] t := by
  rintro ⟨u, i, j, s', t', branches, hs, -⟩
  simp at hs

/-- Sites below one child part where they part below that child. -/
theorem partAtAlternation_cons {p q : Pattern} {i : Nat} {s t : Site}
    (hq : p.children[i]? = some (some q)) :
    p.PartAtAlternation (i :: s) (i :: t) ↔ q.PartAtAlternation s t := by
  constructor
  · rintro ⟨u, j, k, s', t', branches, hs, ht, hjk, hu⟩
    cases u with
    | nil =>
      obtain ⟨rfl, -⟩ := List.cons.inj hs
      obtain ⟨rfl, -⟩ := List.cons.inj ht
      exact absurd rfl hjk
    | cons l u =>
      obtain ⟨rfl, rfl⟩ := List.cons.inj hs
      obtain ⟨-, rfl⟩ := List.cons.inj ht
      obtain ⟨c, hc, hu⟩ := node?_cons.1 hu
      obtain rfl : q = c := by simpa using hq.symm.trans hc
      exact ⟨u, j, k, s', t', branches, rfl, rfl, hjk, hu⟩
  · rintro ⟨u, j, k, s', t', branches, rfl, rfl, hjk, hu⟩
    exact ⟨i :: u, j, k, s', t', branches, rfl, rfl, hjk, node?_cons.2 ⟨q, hq, hu⟩⟩

/-- Sites below different children part at the root. -/
theorem partAtAlternation_cons_of_ne {p : Pattern} {i j : Nat} {s t : Site} (hij : i ≠ j) :
    p.PartAtAlternation (i :: s) (j :: t) ↔ ∃ branches, p = alternation branches := by
  constructor
  · rintro ⟨u, k, l, s', t', branches, hs, ht, -, hu⟩
    cases u with
    | nil => exact ⟨branches, by simpa using hu⟩
    | cons m u =>
      obtain ⟨rfl, -⟩ := List.cons.inj hs
      obtain ⟨rfl, -⟩ := List.cons.inj ht
      exact absurd rfl hij
  · rintro ⟨branches, rfl⟩
    exact ⟨[], i, j, s, t, branches, rfl, rfl, hij, rfl⟩

/-- No name occurs in both patterns. -/
def Separate (p q : Pattern) : Prop := ∀ name, p.Names name → ¬ q.Names name

/-- What holds of any two parts in order holds of any two children that are patterns. -/
theorem pairwise_parts_iff {p : Pattern} {R : Pattern → Pattern → Prop} :
    p.parts.Pairwise R ↔ ∀ i j : Nat, i < j → ∀ q r : Pattern,
      p.children[i]? = some (some q) → p.children[j]? = some (some r) → R q r := by
  rw [parts, List.reduceOption, List.pairwise_filterMap, List.pairwise_iff_getElem]
  constructor
  · intro h i j hij q r hq hr
    obtain ⟨hi, hq⟩ := List.getElem?_eq_some_iff.1 hq
    obtain ⟨hj, hr⟩ := List.getElem?_eq_some_iff.1 hr
    exact h i j hi hj hij q hq r hr
  · intro h i j hi hj hij q hq r hr
    exact h i j hij q r (List.getElem?_eq_some_iff.2 ⟨hi, hq⟩)
      (List.getElem?_eq_some_iff.2 ⟨hj, hr⟩)

theorem Apart.part {p q : Pattern} (h : p.Apart) (hq : q ∈ p.parts) : q.Apart := by
  intro s t name hs ht hne
  obtain ⟨i, hi⟩ := List.mem_iff_getElem?.1 (mem_parts_iff.1 hq)
  refine (partAtAlternation_cons hi).1 (h (i :: s) (i :: t) name ?_ ?_ (by simpa using hne))
  · exact nameAt?_cons.2 ⟨q, hi, hs⟩
  · exact nameAt?_cons.2 ⟨q, hi, ht⟩

/-- The names at a node that is no alternation: none occurs in two parts, nor in a part and at the
node itself. -/
structure ApartAtRoot (p : Pattern) : Prop where
  separate : p.parts.Pairwise Separate
  fresh : ∀ name ∈ p.ownName?, ∀ q ∈ p.parts, ¬ q.Names name

theorem Apart.root {p : Pattern} (h : p.Apart) (hp : ∀ branches, p ≠ alternation branches) :
    p.ApartAtRoot := by
  refine ⟨pairwise_parts_iff.2 ?_, ?_⟩
  · rintro i j hij q r hq hr name ⟨s, hs⟩ ⟨t, ht⟩
    have hpart := h (i :: s) (j :: t) name (nameAt?_cons.2 ⟨q, hq, hs⟩)
      (nameAt?_cons.2 ⟨r, hr, ht⟩) (by simp [hij.ne])
    obtain ⟨branches, hbranches⟩ := (partAtAlternation_cons_of_ne hij.ne).1 hpart
    exact hp branches hbranches
  · rintro name hown q hq ⟨s, hs⟩
    obtain ⟨i, hi⟩ := List.mem_iff_getElem?.1 (mem_parts_iff.1 hq)
    exact not_partAtAlternation_nil
      (h [] (i :: s) name hown (nameAt?_cons.2 ⟨q, hi, hs⟩) (by simp))

/-- Two occurrences below different children part at the root, if that is an alternation; otherwise
there are none. -/
theorem partAtAlternation_of_children {p q r : Pattern} {i j : Nat} {s t : Site} {name : String}
    (h : (∀ branches, p ≠ alternation branches) → p.ApartAtRoot) (hij : i ≠ j)
    (hq : p.children[i]? = some (some q)) (hr : p.children[j]? = some (some r))
    (hs : q.nameAt? s = some name) (ht : r.nameAt? t = some name) :
    p.PartAtAlternation (i :: s) (j :: t) := by
  rw [partAtAlternation_cons_of_ne hij]
  by_contra hp
  have hseparate := pairwise_parts_iff.1 (h fun branches he => hp ⟨branches, he⟩).separate
  -- the parts are separate in their order, and the two sites may come in either order
  rcases Nat.lt_or_gt_of_ne hij with hlt | hlt
  · exact hseparate i j hlt q r hq hr name ⟨s, hs⟩ ⟨t, ht⟩
  · exact hseparate j i hlt r q hr hq name ⟨t, ht⟩ ⟨s, hs⟩

/-- Occurrences lie apart when they do in each part and at the root. -/
theorem apart_iff {p : Pattern} :
    p.Apart ↔ (∀ q ∈ p.parts, q.Apart) ∧
      ((∀ branches, p ≠ alternation branches) → p.ApartAtRoot) := by
  constructor
  · exact fun h => ⟨fun q hq => h.part hq, h.root⟩
  · rintro ⟨hparts, hown⟩ s t name hs ht hne
    -- a name at the root is that of a node which is no alternation
    have hroot : p.ownName? = some name → p.ApartAtRoot := by
      refine fun hname => hown ?_
      rintro branches rfl
      exact absurd hname (by simp [ownName?])
    cases s with
    | nil =>
      cases t with
      | nil => exact absurd rfl hne
      | cons j t =>
        obtain ⟨q, hq, ht⟩ := nameAt?_cons.1 ht
        exact absurd ⟨t, ht⟩ ((hroot hs).fresh name hs q (mem_parts_of_getElem? hq))
    | cons i s =>
      obtain ⟨q, hq, hs⟩ := nameAt?_cons.1 hs
      cases t with
      | nil => exact absurd ⟨s, hs⟩ ((hroot ht).fresh name ht q (mem_parts_of_getElem? hq))
      | cons j t =>
        obtain ⟨r, hr, ht⟩ := nameAt?_cons.1 ht
        by_cases hij : i = j
        · subst hij
          obtain rfl : q = r := by simpa using hq.symm.trans hr
          have hne : s ≠ t := fun he => hne (by rw [he])
          have hapart := hparts q (mem_parts_of_getElem? hq)
          exact (partAtAlternation_cons hq).2 (hapart s t name hs ht hne)
        · exact partAtAlternation_of_children hown hij hq hr hs ht

/-! ## Names node by node -/

/-- Where branches agree, no name occurs in two patterns when none is declared in two. -/
theorem pairwise_separate_iff {ps : List Pattern} (h : ∀ p ∈ ps, p.Agrees) :
    ps.Pairwise Separate ↔ ps.Pairwise (Function.onFun List.Disjoint declared) := by
  refine List.Pairwise.iff_of_mem fun {q r} hq hr => ?_
  simp only [Separate, names_iff_mem_declared (h q hq), names_iff_mem_declared (h r hr),
    Function.onFun, List.Disjoint]

theorem nodup_declared_iff {p : Pattern} (hp : ∀ branches, p ≠ alternation branches)
    (hagrees : ∀ q ∈ p.parts, q.Agrees) (hnodup : ∀ q ∈ p.parts, q.declared.Nodup) :
    p.declared.Nodup ↔ p.ApartAtRoot := by
  rw [declared_of_ne_alternation hp, List.nodup_append', List.nodup_flatMap,
    ← pairwise_separate_iff hagrees]
  constructor
  · rintro ⟨⟨-, hseparate⟩, -, hown⟩
    refine ⟨hseparate, fun name hname q hq hmem => ?_⟩
    have hdeclared := (names_iff_mem_declared (hagrees q hq)).1 hmem
    exact hown (List.mem_flatMap.2 ⟨q, hq, hdeclared⟩) (Option.mem_toList.2 hname)
  · rintro ⟨hseparate, hfresh⟩
    refine ⟨⟨hnodup, hseparate⟩, Option.toList_nodup _, fun name hname hown => ?_⟩
    obtain ⟨q, hq, hdeclared⟩ := List.mem_flatMap.1 hname
    exact hfresh name (Option.mem_toList.1 hown) q hq
      ((names_iff_mem_declared (hagrees q hq)).2 hdeclared)

theorem namesFit_alternation_iff {ps : List Pattern} (hagrees : ∀ q ∈ ps, q.Agrees)
    (hnodup : ∀ q ∈ ps, q.declared.Nodup) :
    (alternation ps).NamesFit ↔
      ∀ b ∈ ps, ∀ b' ∈ ps, ∀ name, b.Names name ↔ b'.Names name := by
  constructor
  · rintro ⟨-, hperm⟩ b hb b' hb' name
    rw [names_iff_mem_declared (hagrees b hb), names_iff_mem_declared (hagrees b' hb'),
      (hperm b hb).mem_iff, (hperm b' hb').mem_iff]
  · intro h
    cases ps with
    | nil => exact ⟨by simp [declared_eq, walked, ownName?], by simp [branches]⟩
    | cons first others =>
      have hfirst : first ∈ first :: others := List.mem_cons_self ..
      refine ⟨by rw [declared_alternation]; exact hnodup first hfirst, fun b hb => ?_⟩
      rw [declared_alternation, List.perm_ext_iff_of_nodup (hnodup b hb) (hnodup first hfirst)]
      intro name
      rw [← names_iff_mem_declared (hagrees b hb), ← names_iff_mem_declared (hagrees first hfirst)]
      exact h b hb first hfirst name

/-- The names fit at a node when they lie apart there and its branches agree. -/
theorem namesFit_iff {p : Pattern} (hagrees : ∀ q ∈ p.parts, q.Agrees)
    (hnodup : ∀ q ∈ p.parts, q.declared.Nodup) :
    p.NamesFit ↔ ((∀ branches, p ≠ alternation branches) → p.ApartAtRoot) ∧
      ∀ b ∈ p.branches, ∀ b' ∈ p.branches, ∀ name, b.Names name ↔ b'.Names name := by
  by_cases hp : ∃ ps, p = alternation ps
  · obtain ⟨ps, rfl⟩ := hp
    rw [parts_alternation] at hagrees hnodup
    rw [namesFit_alternation_iff hagrees hnodup]
    exact ⟨fun h => ⟨fun hne => absurd rfl (hne ps), h⟩, fun h => h.2⟩
  · have hne : ∀ ps, p ≠ alternation ps := fun ps he => hp ⟨ps, he⟩
    have hbranches : p.branches = [] := branches_of_ne_alternation hne
    rw [← nodup_declared_iff hne hagrees hnodup]
    constructor
    · rintro ⟨hdeclared, -⟩
      exact ⟨fun _ => hdeclared, by simp [hbranches]⟩
    · rintro ⟨hdeclared, -⟩
      exact ⟨hdeclared hne, by simp [hbranches]⟩

/-- The names fit everywhere exactly when occurrences of one name lie apart and branches agree. -/
theorem everywhere_namesFit_iff {p : Pattern} :
    p.Everywhere NamesFit ↔ p.Apart ∧ p.Agrees := by
  induction p using partsInduction with
  | node p ih =>
    rw [everywhere_iff, apart_iff, Agrees, everywhere_iff]
    constructor
    · rintro ⟨hroot, hfit⟩
      have hagrees : ∀ q ∈ p.parts, q.Agrees := fun q hq => ((ih q hq).1 (hfit q hq)).2
      have hapart : ∀ q ∈ p.parts, q.Apart := fun q hq => ((ih q hq).1 (hfit q hq)).1
      obtain ⟨hown, hbranches⟩ :=
        (namesFit_iff hagrees fun q hq => (hfit q hq).root.declared_nodup).1 hroot
      exact ⟨⟨hapart, hown⟩, hbranches, hagrees⟩
    · rintro ⟨⟨hapart, hown⟩, hbranches, hagrees⟩
      have hfit : ∀ q ∈ p.parts, q.Everywhere NamesFit :=
        fun q hq => (ih q hq).2 ⟨hapart q hq, hagrees q hq⟩
      refine ⟨(namesFit_iff hagrees fun q hq => ?_).2 ⟨hown, hbranches⟩, hfit⟩
      exact (hfit q hq).root.declared_nodup

/-! ## The law -/

/-- The law of accepted patterns. The root is at level 1, and a node at a site is as many levels
below it as the site is long. -/
structure Lawful (p : Pattern) : Prop where
  shallow : ∀ site q, p.node? site = some q → site.length + 1 ≤ maxDepth
  narrow : ∀ site q, p.node? site = some q → q.children.length ≤ maxBranches
  inhabited : ∀ site, p.node? site ≠ some (alternation []) ∧ p.node? site ≠ some (conjunction [])
  keys_nodup : ∀ site q, p.node? site = some q → q.keys.Nodup
  apart : p.Apart
  agrees : p.Agrees

/-- The level of the deepest node is the height of the tree. -/
theorem height_le_iff {p : Pattern} {n : Nat} :
    p.height ≤ n ↔ ∀ site q, p.node? site = some q → site.length + 1 ≤ n := by
  induction p using partsInduction generalizing n with
  | node p ih =>
    rw [height_eq]
    cases n with
    | zero =>
      constructor
      · intro h; omega
      · intro h; exact absurd (h [] p rfl) (by simp)
    | succ n =>
      rw [Nat.succ_le_succ_iff, maxHeight_le_iff]
      constructor
      · intro h site q hq
        cases site with
        | nil => simp
        | cons i site =>
          obtain ⟨c, hc, hq⟩ := node?_cons.1 hq
          have hmem := mem_parts_of_getElem? hc
          exact Nat.succ_le_succ ((ih c hmem).1 (h c hmem) site q hq)
      · intro h c hc
        refine (ih c hc).2 fun site q hq => ?_
        obtain ⟨i, hi⟩ := List.mem_iff_getElem?.1 (mem_parts_iff.1 hc)
        exact Nat.le_of_succ_le_succ (h (i :: site) q (node?_cons.2 ⟨c, hi, hq⟩))

theorem fits_one_iff {p : Pattern} : p.Fits 1 ↔ p.Lawful := by
  have hnames := @everywhere_namesFit_iff p
  rw [Fits, Nat.add_comm 1, Nat.succ_le_succ_iff, height_le_iff]
  constructor
  · rintro ⟨hshallow, hcoherent⟩
    obtain ⟨hapart, hagrees⟩ := hnames.1 (hcoherent.mono fun q h => h.toNamesFit)
    exact {
      shallow := hshallow
      narrow := fun site q hq => (hcoherent site q hq).narrow
      inhabited := fun site => ⟨fun hq => (hcoherent site _ hq).ne_alternation rfl,
        fun hq => (hcoherent site _ hq).ne_conjunction rfl⟩
      keys_nodup := fun site q hq => (hcoherent site q hq).keys_nodup
      apart := hapart
      agrees := hagrees }
  · intro h
    have hfit := hnames.2 ⟨h.apart, h.agrees⟩
    refine ⟨h.shallow, fun site q hq => ?_⟩
    exact {
      narrow := h.narrow site q hq
      ne_alternation := fun he => (h.inhabited site).1 (he ▸ hq)
      ne_conjunction := fun he => (h.inhabited site).2 (he ▸ hq)
      keys_nodup := h.keys_nodup site q hq
      toNamesFit := hfit site q hq }

/-- Exactly the lawful patterns are accepted, and an accepted one has the height of its tree as its
depth and its declared names, which are distinct, as its binders. -/
theorem compile_law (p : Pattern) :
    ((∃ c, p.compile = .ok c) ↔ p.Lawful) ∧
      ∀ c, p.compile = .ok c →
        c.pattern = p ∧ c.depth = p.height ∧ c.binders = p.declared ∧ c.binders.Nodup := by
  refine ⟨exists_compile_iff.trans fits_one_iff, fun c hc => ?_⟩
  obtain rfl := compile_eq_ok.1 hc
  refine ⟨rfl, c.depth_eq, c.binders_eq, ?_⟩
  rw [c.binders_eq]
  exact c.fits.2.root.declared_nodup

/-- A name that occurs in both branches of an alternation, beside a rest. -/
def eitherBranch : Pattern :=
  sequence [some (alternation [binder "x", conjunction [wildcard, binder "x"]]), none] (some "rest")

theorem compile_law_eitherBranch :
    ∃ c, eitherBranch.compile = .ok c ∧ eitherBranch.Lawful ∧ eitherBranch.height = 4 ∧
      eitherBranch.declared = ["x", "rest"] := by
  let c : Compiled := ⟨eitherBranch, ["x", "rest"], 4, by cbv⟩
  have hcompile : eitherBranch.compile = .ok c := compile_eq_ok.2 rfl
  obtain ⟨-, hdepth, hbinders, -⟩ := (compile_law eitherBranch).2 c hcompile
  exact ⟨c, hcompile, (compile_law eitherBranch).1.1 ⟨c, hcompile⟩, hdepth.symm, hbinders.symm⟩

end Destructure.Pattern
