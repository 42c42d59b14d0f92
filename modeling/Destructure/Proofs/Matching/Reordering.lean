import Mathlib.Data.Multiset.AddSub
import Destructure.Proofs.Entries
import Destructure.Proofs.Matching.Calls
import Destructure.Proofs.Matching.Interchange
import Destructure.Proofs.Pattern.Reordering
import Destructure.Proofs.Regex.Captures

set_option autoImplicit false

/-! # Matching in another order

Fields and members are matched one after the other, and a match stops at the first one that is refused
or fails. If none can fail, only the order of the bindings is left to tell in which order they came:
without it, two readings that come to an end can be put together either way
(`Reading.unordered_both_comm`). So a pattern that cannot fail and the pattern with its parts in another
order match the same subjects, with the same bindings (`Pattern.compile_reordered`). -/

namespace Destructure

/-! ## Readings without their order -/

namespace Reading

/-- What a reading comes to, without the order of the pairs. -/
def unordered (r : Reading) : Except MatchError (Option (Multiset (String × Value))) :=
  Option.map Multiset.ofList <$> r.result

theorem unordered_of_alike {r s : Reading} (h : r.Alike s) : r.unordered = s.unordered := by
  rw [unordered, unordered, h.result]

theorem unordered_both (first second : Reading) : (first.both second).unordered =
    first.unordered >>= fun
      | none => .ok none
      | some pairs => Option.map (pairs + ·) <$> second.unordered := by
  rw [unordered, unordered, unordered, both, Run.result_bind]
  cases first.result with
  | error e => rfl
  | ok found =>
    cases found with
    | none => rfl
    | some pairs =>
      show Option.map Multiset.ofList <$> ((Option.map (pairs ++ ·)) <$> second).result
        = Option.map (Multiset.ofList pairs + ·) <$> Option.map Multiset.ofList <$> second.result
      rw [Run.result_map]
      rcases second.result with e | (_ | more) <;> rfl

theorem unordered_either (first second : Reading) : (first.either second).unordered =
    first.unordered >>= fun
      | none => second.unordered
      | some pairs => .ok (some pairs) := by
  rw [unordered, unordered, unordered, either, Run.result_bind]
  rcases first.result with e | (_ | pairs) <;> rfl

theorem unordered_both_congr {first first' second second' : Reading}
    (h : first.unordered = first'.unordered) (h' : second.unordered = second'.unordered) :
    (first.both second).unordered = (first'.both second').unordered := by
  rw [unordered_both, unordered_both, h, h']

/-- Where two readings come to an end, it does not matter which one comes first. -/
theorem unordered_both_comm {first second : Reading} (hfirst : ∃ found, first.result = .ok found)
    (hsecond : ∃ found, second.result = .ok found) :
    (first.both second).unordered = (second.both first).unordered := by
  obtain ⟨found, hfound⟩ := hfirst
  obtain ⟨found', hfound'⟩ := hsecond
  rw [unordered_both, unordered_both, unordered, unordered, hfound, hfound']
  cases found with
  | none => cases found' <;> rfl
  | some pairs =>
    cases found' with
    | none => rfl
    | some more => exact congrArg (Except.ok ∘ some) (Multiset.add_comm ..)

theorem unordered_both_left_comm {first second : Reading}
    (hfirst : ∃ found, first.result = .ok found) (hsecond : ∃ found, second.result = .ok found)
    (third : Reading) :
    (first.both (second.both third)).unordered = (second.both (first.both third)).unordered := by
  rw [← both_assoc, ← both_assoc]
  exact unordered_both_congr (unordered_both_comm hfirst hsecond) rfl

/-- Putting readings together does not bring an order in. -/
theorem unordered_closed : Closed fun _ _ r s => r.unordered = s.unordered where
  rejected := fun _ _ => rfl
  bound := fun _ _ _ => rfl
  fault := fun _ _ _ _ => rfl
  child := fun _ h => h
  both := unordered_both_congr
  either := fun h hrest => by rw [unordered_either, unordered_either, h, hrest]
  call := fun {_ _ _ result _ _} _ _ hnext => by
    rw [unordered, unordered, Run.result_bind, Run.result_bind]
    cases result with
    | error e => rfl
    | ok a => exact hnext a

/-- The readings of the members of a list, which must all match; the members are numbered from
`index` on. -/
def all {α : Type} (f : Nat → α → Reading) : List α → Nat → Reading
  | [], _ => bound []
  | a :: rest, index => (f index a).both (all f rest (index + 1))

section All

variable {α : Type} {f g : Nat → α → Reading}

theorem unordered_all_congr (h : ∀ i j a, (f i a).unordered = (g j a).unordered) (members : List α)
    (i j : Nat) : (all f members i).unordered = (all g members j).unordered := by
  induction members generalizing i j with
  | nil => rfl
  | cons a rest ih => exact unordered_both_congr (h i j a) (ih (i + 1) (j + 1))

/-- Where no member fails, their order does not matter, and neither do their numbers. -/
theorem unordered_all_perm {members others : List α} (hperm : members.Perm others)
    (h : ∀ i j a, (f i a).unordered = (g j a).unordered)
    (hok : ∀ a ∈ members, ∀ i, ∃ found, (f i a).result = .ok found) (i j : Nat) :
    (all f members i).unordered = (all g others j).unordered := by
  have hself (i j : Nat) (a : α) : (f i a).unordered = (f j a).unordered :=
    (h i i a).trans (h j i a).symm
  refine Eq.trans ?_ (unordered_all_congr h others i j)
  clear j
  induction hperm generalizing i with
  | nil => rfl
  | cons a _ ih => exact unordered_both_congr rfl (ih (List.forall_mem_cons.1 hok).2 (i + 1))
  | swap a b rest =>
    rw [List.forall_mem_cons, List.forall_mem_cons] at hok
    refine (unordered_both_left_comm (hok.1 i) (hok.2.1 (i + 1)) _).trans ?_
    -- the two members have changed their numbers
    exact unordered_both_congr (hself ..) (unordered_both_congr (hself ..) rfl)
  | trans hfirst _ ih ih' =>
    exact (ih hok i).trans (ih' (fun a ha => hok a (hfirst.mem_iff.2 ha)) i)

end All

end Reading

namespace Pattern

/-! ## Patterns that cannot fail -/

/-- The node never fails: it is no predicate, and if it is an extractor, this produces a value whenever
it matches. -/
def Unfailing : Pattern → Prop
  | .predicate _ => False
  | .extractor source _ =>
    ∀ subject, (source.extract subject).matched → (source.extract subject).value.isSome
  | _ => True

/-- An extractor of the values of one kind produces them. -/
theorem unfailing_ofKind (kind : Kind) (inner : Option Pattern) :
    (extractor (.ofKind kind) inner).Unfailing := by
  intro subject hmatched
  simp only [Extractor.ofKind] at hmatched ⊢
  split at hmatched
  · next hkind => simp [hkind, Extraction.produced]
  · cases hmatched

/-- A value can be matched against every pattern. -/
theorem target_of_isSome {extraction : Extraction} (h : extraction.value.isSome) (shape : Shape) :
    ∃ target, extraction.target shape = .ok target := by
  obtain ⟨value, hvalue⟩ := Option.isSome_iff_exists.1 h
  rw [Extraction.target.eq_def, hvalue]
  split <;> simp_all

theorem Unfailing.not_fails {p : Pattern} (h : p.Unfailing) {event : Event} {e : MatchError} :
    ¬ p.Fails event e := by
  intro hfails
  cases hfails with
  | predicate hcall => exact h
  | @extractor source inner subject fault hmatched htarget =>
    obtain ⟨target, hok⟩ := target_of_isSome (h subject hmatched) inner.shape
    cases htarget.symm.trans hok
  | @regex engine inner subject fault hmatched htarget =>
    obtain ⟨s, captures, -, -, hextract⟩ := Regex.Engine.extract_of_matched hmatched
    have hvalue : (engine.extract subject).value.isSome := by rw [hextract]; rfl
    obtain ⟨target, hok⟩ := target_of_isSome hvalue inner.shape
    cases htarget.symm.trans hok

/-- A pattern without a node that fails does not fail. -/
theorem read_of_unfailing {p : Pattern} (h : p.Everywhere Unfailing) (scope : Scope) (site : Site)
    (subject : Value) : ∃ found, (p.read scope site subject).result = .ok found := by
  cases hread : (p.read scope site subject).result with
  | ok found => exact ⟨found, rfl⟩
  | error e =>
    have hstops : (p.read scope (site ++ []) subject).StopsAt (p.FailsAt site) :=
      stopsAt_read rfl subject
    rw [List.append_nil] at hstops
    obtain ⟨call, -, s, q, -, hq, hfails⟩ := hstops.fails_of_error hread
    exact absurd hfails (h s q hq).not_fails

/-! ## Nodes in another order -/

variable {scope : Scope}

theorem unordered_read (p : Pattern) (s t : Site) (subject : Value) :
    (p.read scope s subject).unordered = (p.read scope t subject).unordered :=
  Reading.unordered_of_alike (p.read_alike scope s t subject)

theorem readMembers_eq_all (members : List Pattern) (site : Site) (index : Nat) (subject : Value) :
    readMembers members scope site index subject
      = .all (fun i p => p.read scope (site ++ [i]) subject) members index := by
  induction members generalizing index with
  | nil => rw [readMembers]; rfl
  | cons p rest ih => rw [readMembers, ih]; rfl

/-- What a field makes of the entry of its key. -/
def readField (field : String × Pattern) (scope : Scope) (site : Site)
    (entries : List (String × Value)) : Reading :=
  match Entries.find? field.1 entries with
  | none => .rejected
  | some value => field.2.read scope site value

theorem readFields_eq_all (fields : List (String × Pattern)) (site : Site) (index : Nat)
    (entries : List (String × Value)) :
    readFields fields scope site index entries
      = .all (fun i field => readField field scope (site ++ [i]) entries) fields index := by
  induction fields generalizing index with
  | nil => rw [readFields]; rfl
  | cons field rest ih =>
    rw [readFields, Reading.all, ← ih, readField]
    cases Entries.find? field.1 entries <;> rfl

theorem unordered_readField (field : String × Pattern) (s t : Site)
    (entries : List (String × Value)) :
    (readField field scope s entries).unordered = (readField field scope t entries).unordered := by
  rw [readField, readField]
  cases Entries.find? field.1 entries with
  | none => rfl
  | some value => exact unordered_read ..

theorem readField_of_unfailing {field : String × Pattern} (h : field.2.Everywhere Unfailing)
    (site : Site) (entries : List (String × Value)) :
    ∃ found, (readField field scope site entries).result = .ok found := by
  rw [readField]
  cases Entries.find? field.1 entries with
  | none => exact ⟨none, rfl⟩
  | some value => exact read_of_unfailing h scope site value

/-- Which entries are left over does not depend on the order of the fields. -/
theorem otherEntries_perm {fields others : List (String × Pattern)} (h : fields.Perm others)
    (entries : List (String × Value)) : otherEntries fields entries = otherEntries others entries := by
  have hany (key : String) : (fields.any fun field => field.1 == key)
      = others.any fun field => field.1 == key := h.any_eq
  simp only [otherEntries, hany]

/-- The patterns demand the same structures and read every subject alike, but for the order. -/
abbrev SameUnordered : Pattern → Pattern → Prop := Related fun r s => r.unordered = s.unordered

theorem sameUnordered_members {members others : List Pattern} (h : members.Perm others)
    (hmembers : ∀ p ∈ members, p.Everywhere Unfailing) :
    (conjunction members).SameUnordered (conjunction others) := by
  refine ⟨Reorders.shape_eq (.members h.symm), fun scope s t subject => ?_⟩
  rw [read, read, readMembers_eq_all, readMembers_eq_all]
  refine Reading.unordered_all_perm h (fun i j p => unordered_read p _ _ subject)
    (fun p hp i => ?_) 0 0
  exact read_of_unfailing (hmembers p hp) ..

theorem sameUnordered_fields {fields others : List (String × Pattern)} (h : fields.Perm others)
    (hfields : ∀ field ∈ fields, field.2.Everywhere Unfailing) (rest : Option String) :
    (mapping fields rest).SameUnordered (mapping others rest) := by
  refine ⟨rfl, fun scope s t subject => ?_⟩
  cases subject with
  | mapping entries =>
    rw [read, read, readFields_eq_all, readFields_eq_all, otherEntries_perm h]
    refine Reading.unordered_both_congr (Reading.unordered_all_perm h
      (fun i j field => unordered_readField field _ _ entries) (fun field hfield i => ?_) 0 0) rfl
    exact readField_of_unfailing (hfields field hfield) ..
  | _ => simp only [read]

/-! ## Patterns in another order -/

theorem Reorders.sameUnordered {p q : Pattern} (h : p.Reorders q) (hp : p.Everywhere Unfailing) :
    p.SameUnordered q := by
  induction h with
  | fields h rest =>
    refine sameUnordered_fields h (fun field hfield => hp.part ?_) rest
    rw [parts_mapping]
    exact List.mem_map_of_mem hfield
  | members h => exact sameUnordered_members h fun p hmem => hp.part (by simpa using hmem)
  | inside f _ ih => exact (ih (f.everywhere_fill.1 hp).2.1).fill Reading.unordered_closed f

theorem Reorders.unfailing {p q : Pattern} (h : p.Reorders q) (hp : p.Unfailing) : q.Unfailing := by
  cases h with
  | fields h rest | members h => trivial
  | inside f h => cases f with
    | extractor source => exact hp
    | _ => trivial

theorem Reordered.sameUnordered {p q : Pattern} (h : p.Reordered q) (hp : p.Everywhere Unfailing) :
    p.SameUnordered q := by
  induction h with
  | refl => exact .refl Reading.unordered_closed p
  | tail h hstep ih =>
    have hnext := hstep.sameUnordered (Reordered.everywhere Reorders.unfailing h hp)
    exact ⟨ih.shape.trans hnext.shape,
      fun scope s t subject => (ih.read scope s t subject).trans (hnext.read scope t t subject)⟩

/-- A pattern without predicates whose extractors produce a value whenever they match is accepted in any
other order of the fields of its mappings and the members of its conjunctions, wherever they stand. It
binds the same names, and in every scope every subject comes to the same: neither pattern fails, and
both are refused, or both bind the same names to the same values, in some order. -/
theorem compile_reordered {p q : Pattern} {c : Compiled} (hc : p.compile = .ok c)
    (hp : p.Everywhere Unfailing) (h : p.Reordered q) :
    ∃ c', q.compile = .ok c' ∧ c'.binders.Perm c.binders ∧ c'.depth = c.depth ∧
      ∀ subject scope site,
        ((c.matchIn subject scope site).result = .ok .noMatch ∧
          (c'.matchIn subject scope site).result = .ok .noMatch) ∨
        ∃ b b' : Bindings, (c.matchIn subject scope site).result = .ok (.matched b) ∧
          (c'.matchIn subject scope site).result = .ok (.matched b') ∧
          b'.entries.Perm b.entries ∧ ∀ name, b'.get? name = b.get? name := by
  obtain rfl := compile_eq_ok.1 hc
  obtain ⟨c', hc'⟩ := exists_compile_iff.2 (h.fits c.fits)
  obtain rfl := compile_eq_ok.1 hc'
  refine ⟨c', hc', ?_, ?_, fun subject scope site => ?_⟩
  · rw [c'.binders_eq, c.binders_eq]
    exact h.declared_perm
  · rw [c'.depth_eq, c.depth_eq, h.height_eq]
  · have hsame := (h.sameUnordered hp).read scope site site subject
    obtain ⟨found, hfound⟩ := read_of_unfailing hp scope site subject
    obtain ⟨outcome, houtcome, rfl⟩ := c.matchIn_eq_ok hfound
    rw [Reading.unordered, Reading.unordered, hfound] at hsame
    obtain ⟨found', hfound', hpairs⟩ := map_eq_ok.1 hsame.symm
    obtain ⟨outcome', houtcome', rfl⟩ := c'.matchIn_eq_ok hfound'
    rw [houtcome, houtcome']
    cases outcome with
    | noMatch =>
      cases outcome' with
      | noMatch => exact .inl ⟨rfl, rfl⟩
      | matched b' => cases hpairs
    | matched b =>
      cases outcome' with
      | noMatch => cases hpairs
      | matched b' =>
        have hperm : b'.entries.Perm b.entries := Multiset.coe_eq_coe.1 (Option.some.inj hpairs)
        exact .inr ⟨b, b', rfl, rfl, hperm, Entries.find?_perm b'.nodup hperm⟩

/-- The two ends of an edge, in some order, and what else is known of it. -/
def edge (fields : List (String × Pattern)) : Pattern :=
  .alternation [.extractor (.ofKind .mapping) (some (.mapping fields (some "others")))]

theorem compile_reordered_edge :
    ∃ c', (edge [field "to", field "from"]).compile = .ok c' ∧
      c'.binders.Perm ["from", "to", "others"] ∧
      ∃ b' : Bindings, (c'.matchIn (.mapping [("from", .null), ("weight", .bool true),
          ("to", .text "a")]) .root []).result = .ok (.matched b') ∧
        b'.get? "to" = some (.text "a") ∧
        b'.get? "others" = some (.mapping [("weight", .bool true)]) := by
  let c : Compiled := ⟨edge [field "from", field "to"], ["from", "to", "others"], 4, by rfl⟩
  have hcompile : c.pattern.compile = .ok c := compile_eq_ok.2 rfl
  have hunfailing : c.pattern.Everywhere Unfailing := by
    simpa [c, edge, field, Unfailing, everywhere_iff (p := .alternation _),
      everywhere_iff (p := .extractor _ _), everywhere_iff (p := .mapping _ _),
      everywhere_iff (p := .binder _)] using unfailing_ofKind .mapping none
  have hreordered : c.pattern.Reordered (edge [field "to", field "from"]) :=
    .single (.inside (.branch [] []) (.inside (.extractor _) (.fields (.swap ..) _)))
  obtain ⟨c', hc', hbinders, -, hmatch⟩ := compile_reordered hcompile hunfailing hreordered
  refine ⟨c', hc', hbinders, ?_⟩
  have hmatched : (c.matchIn (.mapping [("from", .null), ("weight", .bool true),
      ("to", .text "a")]) .root []).result
      = .ok (.matched (((Bindings.empty.bind "from" .null).bind "to" (.text "a")).bind "others"
          (.mapping [("weight", .bool true)]))) := by cbv
  obtain ⟨hnone, -⟩ | ⟨b, b', hb, hb', -, hget⟩ := hmatch (.mapping [("from", .null),
    ("weight", .bool true), ("to", .text "a")]) .root []
  · rw [hmatched] at hnone
    cases hnone
  · obtain rfl := Outcome.matched.inj (Except.ok.inj (hmatched.symm.trans hb))
    exact ⟨b', hb', (hget "to").trans (by cbv), (hget "others").trans (by cbv)⟩

end Pattern

end Destructure
