import Destructure.Proofs.Matching.Accumulator
import Destructure.Proofs.Regex.Captures
import Destructure.Proofs.Value.Transitivity

set_option autoImplicit false

/-! # Matching equal subjects

Equal subjects may differ: in the order of keys, at any depth, and in the places where their objects
were made. A pattern that looks at its subject by its own structure, by the kind of values and by their
texts cannot tell them apart (`Compiled.matchIn_congruent`). The two matches go through the pattern in
step, and what they hand to its nodes stays equal, leftovers included. -/

namespace Destructure

open Value

variable {heap : Heap} {scope : Scope}

/-! ## Readings in step -/

/-- A name with equal values. -/
def SamePair (heap : Heap) (a b : String × Value) : Prop := a.1 = b.1 ∧ a.2.Same heap b.2

namespace Reading

/-- Both readings come to an end without a failure: they reject, or bind the same names to equal
values. -/
def InStep (heap : Heap) (first second : Reading) : Prop :=
  ∃ found found', first.result = .ok found ∧ second.result = .ok found' ∧
    Option.Rel (List.Forall₂ (SamePair heap)) found found'

namespace InStep

theorem rejected : InStep heap rejected rejected := ⟨none, none, rfl, rfl, .none⟩

theorem bound {pairs pairs' : List (String × Value)}
    (h : List.Forall₂ (SamePair heap) pairs pairs') : InStep heap (bound pairs) (bound pairs') :=
  ⟨some pairs, some pairs', rfl, rfl, .some h⟩

theorem ofBool (condition : Bool) : InStep heap (ofBool condition) (ofBool condition) := by
  cases condition with
  | false => exact rejected
  | true => exact bound .nil

variable {first first' second second' : Reading}

theorem both (h : InStep heap first first') (h' : InStep heap second second') :
    InStep heap (first.both second) (first'.both second') := by
  obtain ⟨a, b, ha, hb, hab⟩ := h
  obtain ⟨c, d, hc, hd, hcd⟩ := h'
  unfold InStep
  rw [Reading.both, Reading.both, Run.result_bind, Run.result_bind, ha, hb]
  cases hab with
  | none => exact rejected
  | @some pairs pairs' hpairs =>
    refine ⟨c.map (pairs ++ ·), d.map (pairs' ++ ·), ?_, ?_, ?_⟩
    · show (Option.map (pairs ++ ·) <$> second).result = _
      rw [Run.result_map, hc]
      rfl
    · show (Option.map (pairs' ++ ·) <$> second').result = _
      rw [Run.result_map, hd]
      rfl
    · cases hcd with
      | none => exact .none
      | some hmore => exact .some (List.rel_append hpairs hmore)

theorem either (h : InStep heap first first') (h' : InStep heap second second') :
    InStep heap (first.either second) (first'.either second') := by
  obtain ⟨a, b, ha, hb, hab⟩ := h
  unfold InStep
  rw [Reading.either, Reading.either, Run.result_bind, Run.result_bind, ha, hb]
  cases hab with
  | none => exact h'
  | some hpairs => exact bound hpairs

/-- What is called first does not matter, if it hands on to readings in step. -/
theorem called {α : Type} {call call' : Call} {a a' : α} {next next' : α → Reading}
    (h : InStep heap (next a) (next' a')) :
    InStep heap (Run.called call (.ok a) >>= next) (Run.called call' (.ok a') >>= next') := by
  obtain ⟨found, found', hfound, hfound', hrel⟩ := h
  refine ⟨found, found', ?_, ?_, hrel⟩
  · rw [Run.result_bind]
    exact hfound
  · rw [Run.result_bind]
    exact hfound'

end InStep

end Reading

/-! ## Nodes -/

namespace Pattern

open Reading

/-- The node cannot tell equal values apart: it is a literal whose objects are in their places, an
extractor of the values of one kind, an expression, or no extension at all. -/
def Respects (heap : Heap) : Pattern → Prop
  | .literal value => value.Placed heap
  | .predicate _ => False
  | .extractor source _ => ∃ kind, source = .ofKind kind
  | _ => True

/-- The pattern reads equal values in step. -/
def ReadsInStep (heap : Heap) (scope : Scope) (p : Pattern) : Prop :=
  ∀ site a b, Same heap a b → InStep heap (p.read scope site a) (p.read scope site b)

theorem leftover_inStep (rest : Option String) {a b : Value} (h : Same heap a b) :
    InStep heap (.bound (leftover rest a)) (.bound (leftover rest b)) := by
  refine .bound ?_
  cases rest with
  | none => exact .nil
  | some name => exact .cons ⟨rfl, h⟩ .nil

theorem readElements_inStep {elements : List (Option Pattern)}
    (h : ∀ p, some p ∈ elements → p.ReadsInStep heap scope) (site : Site) (index : Nat)
    {items others : List Value} (hitems : List.Forall₂ (Same heap) items others) :
    InStep heap (readElements elements scope site index items)
      (readElements elements scope site index others) := by
  induction elements generalizing index items others with
  | nil =>
    rw [readElements_nil, readElements_nil]
    exact .bound .nil
  | cons element elements ih =>
    have hrest := fun p hp => h p (List.mem_cons_of_mem element hp)
    cases hitems with
    | nil => cases element <;> simp only [readElements] <;> exact .bound .nil
    | cons hab hmore =>
      cases element with
      | none =>
        simp only [readElements]
        exact ih hrest (index + 1) hmore
      | some p =>
        simp only [readElements]
        exact (h p List.mem_cons_self _ _ _ hab).both (ih hrest (index + 1) hmore)

theorem readFields_inStep {fields : List (String × Pattern)}
    (h : ∀ p ∈ fields.map (·.2), p.ReadsInStep heap scope) (site : Site) (index : Nat)
    {entries others : List (String × Value)} (hsame : Same heap (.mapping entries) (.mapping others)) :
    InStep heap (readFields fields scope site index entries)
      (readFields fields scope site index others) := by
  induction fields generalizing index with
  | nil =>
    rw [readFields, readFields]
    exact .bound .nil
  | cons field fields ih =>
    obtain ⟨key, p⟩ := field
    rw [List.map_cons, List.forall_mem_cons] at h
    have hentry := hsame.entries key
    rw [readFields, readFields]
    -- both mappings have the key, or neither does
    generalize Entries.find? key entries = found at hentry
    generalize Entries.find? key others = found' at hentry
    cases hentry with
    | none => exact .rejected
    | some hab => exact (h.1 _ _ _ hab).both (ih h.2 (index + 1))

theorem readBranches_inStep {branches : List Pattern}
    (h : ∀ p ∈ branches, p.ReadsInStep heap scope) (site : Site) (index : Nat) {a b : Value}
    (hab : Same heap a b) :
    InStep heap (readBranches branches scope site index a)
      (readBranches branches scope site index b) := by
  induction branches generalizing index with
  | nil =>
    rw [readBranches, readBranches]
    exact .rejected
  | cons p branches ih =>
    rw [List.forall_mem_cons] at h
    rw [readBranches, readBranches]
    exact (h.1 _ _ _ hab).either (ih h.2 (index + 1))

theorem readMembers_inStep {members : List Pattern}
    (h : ∀ p ∈ members, p.ReadsInStep heap scope) (site : Site) (index : Nat) {a b : Value}
    (hab : Same heap a b) :
    InStep heap (readMembers members scope site index a)
      (readMembers members scope site index b) := by
  induction members generalizing index with
  | nil =>
    rw [readMembers, readMembers]
    exact .bound .nil
  | cons p members ih =>
    rw [List.forall_mem_cons] at h
    rw [readMembers, readMembers]
    exact (h.1 _ _ _ hab).both (ih h.2 (index + 1))

/-- Two extractions tell the same: both reject, or both hand equal targets to an inner pattern,
whatever it demands. -/
def Alongside (heap : Heap) (e e' : Extraction) : Prop :=
  e.matched = e'.matched ∧ (e.matched → ∀ shape, ∃ a b, e.target shape = .ok a ∧
    e'.target shape = .ok b ∧ Same heap a b)

theorem readInner_inStep {inner : Option Pattern}
    (h : ∀ p ∈ inner.toList, p.ReadsInStep heap scope) (site : Site) (name : String)
    {e e' : Extraction} (he : Alongside heap e e') :
    InStep heap (readInner inner scope site name e) (readInner inner scope site name e') := by
  obtain ⟨hmatched, htarget⟩ := he
  rw [readInner.eq_def, readInner.eq_def, ← hmatched]
  split
  · next hyes =>
    cases inner with
    | none => exact .bound .nil
    | some p =>
      obtain ⟨a, b, ha, hb, hab⟩ := htarget hyes p.shape
      dsimp only
      rw [ha, hb]
      exact h p (by simp) _ a b hab
  · exact .rejected

theorem alongside_ofKind (kind : Kind) {a b : Value} (hab : Same heap a b) :
    Alongside heap ((Extractor.ofKind kind).extract a) ((Extractor.ofKind kind).extract b) := by
  have hkind := hab.kind_eq
  simp only [Extractor.ofKind, ← hkind]
  split
  · -- the subject itself is handed on, whatever the shape
    refine ⟨rfl, fun _ shape => ⟨a, b, ?_, ?_, hab⟩⟩
    · simp [Extraction.produced, Extraction.target]
    · simp [Extraction.produced, Extraction.target]
  · exact ⟨rfl, fun hmatched => by cases hmatched⟩

theorem alongside_engine (engine : Regex.Engine) {a b : Value} (hab : Same heap a b) :
    Alongside heap (engine.extract a) (engine.extract b) := by
  have hequals := hab.equals
  fun_cases Value.equals a b with
  | case4 s t =>
    -- equal texts are the same text, so both runs find the same
    obtain rfl : s = t := by simpa [Value.equals] using hequals
    refine ⟨rfl, fun hmatched shape => ?_⟩
    obtain ⟨target, htarget, hregular, hdata⟩ := Regex.Engine.target_of_matched hmatched shape
    exact ⟨target, target, htarget, htarget, .refl hregular hdata.placed⟩
  | case11 => simp [Value.equals] at hequals
  | _ => exact ⟨rfl, fun hmatched => by cases hmatched⟩

theorem read_sequence_inStep {elements : List (Option Pattern)} {rest : Option String}
    (h : ∀ p, some p ∈ elements → p.ReadsInStep heap scope) :
    (sequence elements rest).ReadsInStep heap scope := by
  intro site a b hab
  have hequals := hab.equals
  -- the cases of equality: two sequences, two values of another form, and two different forms
  fun_cases Value.equals a b with
  | case5 items others =>
    have hitems := hab.items
    have hleft := Same.of_items (List.forall₂_drop elements.length hitems)
    rw [read, read, ← hitems.length_eq]
    split
    · exact (readElements_inStep h site 0 hitems).both (leftover_inStep rest hleft)
    · exact .rejected
  | case11 => simp [Value.equals] at hequals
  | _ =>
    simp only [read]
    exact .rejected

theorem read_mapping_inStep {fields : List (String × Pattern)} {rest : Option String}
    (h : ∀ p ∈ fields.map (·.2), p.ReadsInStep heap scope) :
    (mapping fields rest).ReadsInStep heap scope := by
  intro site a b hab
  have hequals := hab.equals
  -- the cases of equality: two mappings, two values of another form, and two different forms
  fun_cases Value.equals a b with
  | case6 entries others =>
    have hleft := hab.filter fun key => !fields.any fun field => field.1 == key
    rw [read, read]
    exact (readFields_inStep h site 0 hab).both (leftover_inStep rest hleft)
  | case11 => simp [Value.equals] at hequals
  | _ =>
    simp only [read]
    exact .rejected

/-! ## Patterns -/

/-- A pattern whose nodes cannot tell equal values apart reads them in step. -/
theorem read_inStep (hsymm : heap.Symmetric) (htrans : heap.Transitive) {p : Pattern}
    (h : p.Everywhere (Respects heap)) : p.ReadsInStep heap scope := by
  induction p using partsInduction with
  | node p ih =>
    have hparts : ∀ q ∈ p.parts, q.ReadsInStep heap scope := fun q hq => ih q hq (h.part hq)
    intro site a b hab
    cases p with
    | literal value =>
      -- whichever subject stands on the left
      rw [read, read, hab.equals_right hsymm htrans h.root]
      exact .ofBool _
    | wildcard =>
      rw [read, read]
      exact .bound .nil
    | binder name =>
      rw [read, read]
      exact .bound (.cons ⟨rfl, hab⟩ .nil)
    | predicate test => exact h.root.elim
    | sequence elements rest =>
      rw [parts_sequence] at hparts
      refine read_sequence_inStep (fun q hq => hparts q ?_) site a b hab
      exact List.reduceOption_mem_iff.2 hq
    | mapping fields rest =>
      rw [parts_mapping] at hparts
      exact read_mapping_inStep hparts site a b hab
    | alternation branches =>
      rw [parts_alternation] at hparts
      rw [read, read]
      exact readBranches_inStep hparts site 0 hab
    | conjunction members =>
      rw [parts_conjunction] at hparts
      rw [read, read]
      exact readMembers_inStep hparts site 0 hab
    | extractor source inner =>
      obtain ⟨kind, rfl⟩ := h.root
      rw [parts_extractor] at hparts
      rw [read, read]
      exact .called (readInner_inStep hparts site _ (alongside_ofKind kind hab))
    | regex engine inner =>
      rw [parts_regex] at hparts
      rw [read, read]
      exact .called (readInner_inStep hparts site _ (alongside_engine _ hab))

end Pattern

/-! ## Compiled patterns -/

namespace Compiled

/-- Two equal subjects come to the same, in every scope, if no node of the pattern can tell equal
values apart: neither match fails, and both are refused, or both bind the same names, in the same
order, to equal values. The subjects name no key twice, and all objects are in their places. What the
domains of the objects say about equality is symmetric and transitive, and may be anything else. -/
theorem matchIn_congruent (hsymm : heap.Symmetric) (htrans : heap.Transitive) (c : Compiled)
    (hc : c.pattern.Everywhere (Pattern.Respects heap)) {a b : Value} (ha : a.Sound heap)
    (hb : b.Sound heap) (hab : a.equals b) (scope : Scope) (site : Site) :
    ((c.matchIn a scope site).result = .ok .noMatch ∧
        (c.matchIn b scope site).result = .ok .noMatch) ∨
      ∃ bound bound' : Bindings,
        (c.matchIn a scope site).result = .ok (.matched bound) ∧
        (c.matchIn b scope site).result = .ok (.matched bound') ∧
        List.Forall₂ (fun x y => x.1 = y.1 ∧ x.2.equals y.2) bound.entries bound'.entries := by
  obtain ⟨found, found', hread, hread', hrel⟩ :=
    Pattern.read_inStep hsymm htrans hc site a b ⟨ha, hb, hab⟩
  obtain ⟨outcome, houtcome, hpairs⟩ := c.matchIn_eq_ok hread
  obtain ⟨outcome', houtcome', hpairs'⟩ := c.matchIn_eq_ok hread'
  rw [houtcome, houtcome']
  subst hpairs hpairs'
  cases outcome with
  | noMatch =>
    cases outcome' with
    | noMatch => exact .inl ⟨rfl, rfl⟩
    | matched _ => cases hrel
  | matched bound =>
    cases outcome' with
    | noMatch => cases hrel
    | matched bound' =>
      cases hrel with
      | some hentries =>
        refine .inr ⟨bound, bound', rfl, rfl, hentries.imp ?_⟩
        exact fun x y h => ⟨h.1, h.2.equals⟩

/-- So many metres, or so many stretches of another length in metres. Distances are equal when they come to
the same in metres. -/
def distance (unit count : Int) : SealedObject where
  typeName := "distance"
  description := toString count ++ " times " ++ toString unit ++ " metres"
  content := .array [.int unit, .int count]
  sameAs other := match other.typeName, other.content with
    | "distance", .array [.int otherUnit, .int otherCount] =>
      unit * count == otherUnit * otherCount
    | _, _ => false

/-- One kilometre is made in places that begin with 0, and a thousand metres in all others. -/
def distanceAt (place : Identity) : SealedObject :=
  if place.head? = some 0 then distance 1000 1 else distance 1 1000

/-- Every optional value is made of `true`, and every other object is a kilometre. -/
def ofTrue : Heap where
  option := fun _ => some (.bool true)
  sealed := fun place => some (distanceAt place)

theorem alike_of_made {x y : SealedObject} (hx : ofTrue.Made x) (hy : ofTrue.Made y) :
    x.alike y := by
  obtain ⟨i, hi⟩ := hx
  obtain ⟨j, hj⟩ := hy
  obtain rfl := Option.some.inj hi
  obtain rfl := Option.some.inj hj
  unfold distanceAt
  split <;> split <;> rfl

/-- An optional `true` and a distance, both made in the same place, with a text and a null. -/
def givenEntries (place : Nat) : List (String × Value) :=
  [("given", .option [place, 0] (some (.bool true))),
    ("far", .sealed [place, 1] (distanceAt [place, 1])), ("label", .text "a"), ("other", .null)]

/-- The mappings with an optional `true` and a kilometre under two keys, and what else they hold. -/
def givenTrue : Compiled where
  pattern := .mapping [("given", .conjunction [.extractor (.ofKind .sealed) none,
      .literal (.option [2, 0] (some (.bool true)))]),
    ("far", .conjunction [.literal (.sealed [2, 1] (distanceAt [2, 1])), .binder "distance"])]
    (some "others")
  binders := ["distance", "others"]
  depth := 3
  accepted := by cbv

theorem givenTrue_respects : givenTrue.pattern.Everywhere (Pattern.Respects ofTrue) := by
  simp [givenTrue, Pattern.Respects, Placed.option, Placed.bool, Placed.sealed, ofTrue,
    Pattern.everywhere_iff (p := .conjunction _), Pattern.everywhere_iff (p := .mapping _ _),
    Pattern.everywhere_iff (p := .extractor _ _), Pattern.everywhere_iff (p := .literal _),
    Pattern.everywhere_iff (p := .binder _)]

theorem sound_givenEntries {place : Nat} {entries : List (String × Value)}
    (h : entries.Perm (givenEntries place)) : (mapping entries).Sound ofTrue := by
  have hentry : ∀ entry ∈ entries, entry.2.Sound ofTrue := by
    intro entry hentry
    have hmem := h.mem_iff.1 hentry
    simp only [givenEntries, List.mem_cons, List.not_mem_nil, or_false] at hmem
    rcases hmem with rfl | rfl | rfl | rfl
    · exact ⟨.option fun _ h => by cases h; exact .bool true,
        .option rfl fun _ h => by cases h; exact .bool true⟩
    · exact ⟨.sealed _ _, .sealed rfl⟩
    · exact ⟨.text "a", .text "a"⟩
    · exact ⟨.null, .null⟩
  have hkeys : (Entries.keys entries).Nodup :=
    (h.map Prod.fst).nodup_iff.2 (by simp [givenEntries])
  exact ⟨.mapping hkeys fun entry hmem => (hentry entry hmem).distinct,
    .mapping fun entry hmem => (hentry entry hmem).placed⟩

/-- The distances are different objects, which show different things, but their domain holds them
equal. -/
theorem matchIn_congruent_givenTrue :
    ∃ bound bound' : Bindings,
      (givenTrue.matchIn (.mapping (givenEntries 0)) .root []).result = .ok (.matched bound) ∧
      (givenTrue.matchIn (.mapping (givenEntries 1).reverse) .root []).result
        = .ok (.matched bound') ∧
      List.Forall₂ (fun x y => x.1 = y.1 ∧ x.2.equals y.2) bound.entries bound'.entries := by
  have hsymm : ofTrue.Symmetric := fun x y hx hy _ => alike_of_made hy hx
  have htrans : ofTrue.Transitive := fun x y z hx _ hz _ _ => alike_of_made hx hz
  have hmatched : (givenTrue.matchIn (.mapping (givenEntries 0)) .root []).result
      = .ok (.matched ((Bindings.empty.bind "distance"
          (.sealed [0, 1] (distance 1000 1))).bind "others"
          (.mapping [("label", .text "a"), ("other", .null)]))) := by cbv
  have hequals : (mapping (givenEntries 0)).equals (mapping (givenEntries 1).reverse) := by
    cbv
  obtain ⟨hnone, -⟩ | hboth := givenTrue.matchIn_congruent hsymm htrans givenTrue_respects
    (sound_givenEntries (.refl _)) (sound_givenEntries (List.reverse_perm _)) hequals .root []
  · rw [hmatched] at hnone
    cases hnone
  · exact hboth

end Compiled

end Destructure
