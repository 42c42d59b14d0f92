import Destructure.Proofs.Matching.Accumulator
import Destructure.Proofs.Matching.Interchange
import Destructure.Proofs.Regex.Captures
import Destructure.Proofs.Regex.Library

set_option autoImplicit false

/-! # Groups by position and groups by name

The groups of a match can be taken apart in two ways: as the sequence of all groups, with a hole for the
whole match (`Pattern.byPosition`), or through the record of the match, as the sequence of its field
`groups`, which leaves the whole match out (`Pattern.byRecord`). The first one is handed the groups and
the second one the record, and both come to the same (`Pattern.compile_forms`). -/

namespace Destructure

namespace Pattern

/-- The groups of a match by their numbers, with a hole for group 0. -/
def byPosition (engine : Regex.Engine) (elements : List (Option Pattern)) (rest : Option String) :
    Pattern :=
  .regex engine (some (.sequence (none :: elements) rest))

/-- The groups of a match as the record of the match has them, without group 0. -/
def byRecord (engine : Regex.Engine) (elements : List (Option Pattern)) (rest : Option String) :
    Pattern :=
  .regex engine (some (.mapping [("groups", .sequence elements rest)] none))

variable {engine : Regex.Engine} {elements : List (Option Pattern)} {rest : Option String}

/-! ## The two targets -/

theorem lengthFits_succ (n m : Nat) : lengthFits (n + 1) rest (m + 1) = lengthFits n rest m := by
  cases rest <;> simp [lengthFits]

/-- A hole takes the first item, and leaves the others to the other elements. -/
theorem read_hole_alike (scope : Scope) (s t : Site) (item : Value) (items : List Value) :
    ((sequence (none :: elements) rest).read scope s (.sequence (item :: items))).Alike
      ((sequence elements rest).read scope t (.sequence items)) := by
  rw [read, read, List.length_cons, List.length_cons, lengthFits_succ, readElements,
    List.drop_succ_cons]
  split
  · exact alike_both (readElements_alike scope s t elements 1 0 items) (.refl _)
  · exact .refl _

/-- The record of a match has the groups without the whole match. -/
theorem read_record (p : Pattern) (scope : Scope) (site : Site) (captures : Regex.Captures) :
    (mapping [("groups", p)] none).read scope site captures.record
      = p.read scope (site ++ [0]) (.sequence (captures.groups.drop 1)) := by
  rw [Regex.Captures.record, read, readFields]
  show ((p.read scope (site ++ [0]) (.sequence (captures.groups.drop 1))).both
    (readFields [] scope site 1 _)).both (.bound []) = _
  rw [readFields, Reading.both_bound_nil, Reading.both_bound_nil]

/-- Both forms read what an engine reports alike, though one takes the groups and the other one the
record. -/
theorem readInner_forms_alike (hengine : engine.ReportsWhole) (scope : Scope) (s t : Site)
    (name : String) (subject : Value) :
    (readInner (some (.sequence (none :: elements) rest)) scope s name (engine.extract subject)).Alike
      (readInner (some (.mapping [("groups", .sequence elements rest)] none)) scope t name
        (engine.extract subject)) := by
  cases hmatched : (engine.extract subject).matched with
  | false =>
    rw [readInner, readInner, hmatched]
    exact .refl _
  | true =>
    obtain ⟨text, captures, -, hexecute, hextract⟩ := Regex.Engine.extract_of_matched hmatched
    obtain ⟨whole, groups, hpositional⟩ :=
      List.exists_cons_of_ne_nil (hengine text captures hexecute)
    have hgroups : captures.groups = Regex.groupValue whole :: groups.map Regex.groupValue := by
      rw [Regex.Captures.groups, hpositional, List.map_cons]
    rw [hextract]
    -- the sequence is handed the groups, and the mapping the record
    show Run.Alike ((sequence (none :: elements) rest).read scope (s ++ [0])
        (.sequence captures.groups))
      ((mapping [("groups", .sequence elements rest)] none).read scope (t ++ [0]) captures.record)
    rw [read_record, hgroups]
    exact read_hole_alike scope _ _ _ _

theorem read_forms_alike (hengine : engine.ReportsWhole) (scope : Scope) (s t : Site)
    (subject : Value) : ((byPosition engine elements rest).read scope s subject).Alike
      ((byRecord engine elements rest).read scope t subject) := by
  rw [byPosition, byRecord, read, read]
  refine .bind_of_result .called fun extraction hextraction => ?_
  obtain rfl := Except.ok.inj hextraction
  exact readInner_forms_alike hengine scope s t _ subject

/-! ## The two patterns -/

/-- With an engine that reports the whole match, the two ways to take the groups of a match apart are
one: whenever both patterns are accepted they have the same binders, and every match comes to the same
outcome or failure through the same calls. -/
theorem compile_forms (hengine : engine.ReportsWhole) {c c' : Compiled}
    (hc : (byPosition engine elements rest).compile = .ok c)
    (hc' : (byRecord engine elements rest).compile = .ok c') :
    c.binders = c'.binders ∧
      ∀ subject scope site, (c.matchIn subject scope site).Alike (c'.matchIn subject scope site) := by
  have hposition := compile_eq_ok.1 hc
  have hrecord := compile_eq_ok.1 hc'
  refine ⟨?_, fun subject scope site => Compiled.matchIn_alike ?_⟩
  · rw [c.binders_eq, c'.binders_eq, hposition, hrecord, byPosition, byRecord]
    simp [List.reduceOption_cons_of_none]
  · rw [hposition, hrecord]
    exact read_forms_alike hengine scope site site subject

/-- Matches every text. Its one group takes no part unless the text is the letter x. -/
def anyTextMatcher : Regex.Matcher where
  source := "(?s)^(?:(x)|.*)$"
  names := [none, none]
  find text :=
    let group (index : Nat) : Option Regex.Span :=
      if index = 0 ∨ index = 1 ∧ text = "x" then some ⟨0, text⟩ else none
    some ⟨group, [group 0, group 1], fun _ => none⟩

theorem documented_anyTextMatcher : anyTextMatcher.Documented where
  nonempty := List.cons_ne_nil _ _
  namesOnce := by decide
  reports := by
    rintro text found ⟨⟩
    refine ⟨⟨⟨0, text⟩, rfl⟩, rfl, fun index span hspan => ?_, fun index name hname => ?_⟩
    · dsimp only at hspan
      split at hspan
      · obtain rfl := Option.some.inj hspan
        exact ⟨"", "", by simp, rfl⟩
      · cases hspan
    · match index with
      | 0 | 1 => cases hname
      | index + 2 => cases hname

/-- The engine that matches every text. -/
def anyText : Regex.Engine := anyTextMatcher.engine

theorem compile_forms_anyText :
    ∃ c c', (byPosition anyText [some (.binder "x")] (some "others")).compile = .ok c ∧
      (byRecord anyText [some (.binder "x")] (some "others")).compile = .ok c' ∧
      c'.binders = ["x", "others"] ∧
      (c'.matchIn (.text "y") .root []).result
        = .ok (.matched ((Bindings.empty.bind "x" .null).bind "others" (.sequence []))) := by
  let c : Compiled :=
    ⟨byPosition anyText [some (.binder "x")] (some "others"), ["x", "others"], 3, by cbv⟩
  let c' : Compiled :=
    ⟨byRecord anyText [some (.binder "x")] (some "others"), ["x", "others"], 4, by cbv⟩
  have hengine : anyText.ReportsWhole := documented_anyTextMatcher.reportsWhole
  have hc : c.pattern.compile = .ok c := compile_eq_ok.2 rfl
  have hc' : c'.pattern.compile = .ok c' := compile_eq_ok.2 rfl
  obtain ⟨hbinders, halike⟩ := compile_forms hengine hc hc'
  refine ⟨c, c', hc, hc', hbinders.symm, ?_⟩
  rw [← (halike (.text "y") .root []).result]
  rfl

end Pattern

end Destructure
