import Destructure.Fixture.Run
import Destructure.Proofs.Entries
import Destructure.Proofs.Registry.FirstFailure

set_option autoImplicit false

/-! # How cases of fixtures go

A case passes in three ways: it fails as it should, it is exhausted when nothing should be selected, or
it selects the body that it should, with the bindings that it should have (`FixtureCase.Fulfils`). The
bindings are compared in one direction only, with a count. As no name is bound twice, that is equality
of maps (`Bindings.agree_iff`). Running a fixture judges every case by these rules, unless the data of a
case cannot be decoded (`Fixture.run_judges`). -/

namespace Destructure

/-! ## Messages and bindings -/

theorem occursIn_iff {part whole : List Char} : occursIn part whole ↔ part <:+: whole := by
  induction whole with
  | nil => rw [occursIn, List.isEmpty_iff, List.infix_nil]
  | cons c rest ih =>
    rw [occursIn, Bool.or_eq_true, List.isPrefixOf_iff_prefix, ih, List.infix_cons_iff]

theorem mentions_iff {message part : String} :
    mentions message part ↔ part.toList <:+: message.toList := occursIn_iff

/-- A name that is unknown is mentioned. -/
theorem PatternError.infix_message_unknownName (name : String) (table : TableKind)
    (available : List String) :
    name.toList <:+: (unknownName name table available).message.toList := by
  rw [message_unknownName]
  simp only [String.toList_append]
  rw [List.append_assoc _ _ (suggestion table available).toList]
  exact List.infix_append _ _ _

namespace Bindings

/-- As maps the bindings are equal: they bind the same names, to equal values. -/
def SameMap (expected actual : Bindings) : Prop :=
  ∀ name, Option.Rel (fun v w => w.equals v) (expected.get? name) (actual.get? name)

variable {expected actual : Bindings}

theorem mem_names_iff {b : Bindings} {name : String} : name ∈ b.names ↔ (b.get? name).isSome :=
  Entries.isSome_find?_iff.symm

theorem get?_eq_some_iff {b : Bindings} {name : String} {value : Value} :
    b.get? name = some value ↔ (name, value) ∈ b.entries := Entries.find?_eq_some_iff b.nodup

theorem SameMap.size_eq (h : expected.SameMap actual) : expected.size = actual.size := by
  have hperm : expected.names.Perm actual.names := by
    refine (List.perm_ext_iff_of_nodup expected.nodup actual.nodup).2 fun name => ?_
    have hname := h name
    show name ∈ expected.names ↔ name ∈ actual.names
    rw [mem_names_iff, mem_names_iff]
    generalize expected.get? name = v, actual.get? name = w at hname
    cases hname <;> rfl
  have hlength := hperm.length_eq
  rwa [names, names, Entries.length_keys, Entries.length_keys] at hlength

/-- Every expected name is bound to an equal value, and as many names are bound as are expected. -/
theorem agree_iff : expected.agree actual ↔ expected.SameMap actual := by
  rw [agree, Bool.and_eq_true, beq_iff_eq, List.all_eq_true]
  constructor
  · rintro ⟨hsize, hall⟩ name
    have hfound : ∀ n v, expected.get? n = some v →
        ∃ w, actual.get? n = some w ∧ w.equals v := fun n v hn =>
      (Option.any_eq_true _ _).1 (hall (n, v) (get?_eq_some_iff.1 hn))
    cases hname : expected.get? name with
    | some v =>
      obtain ⟨w, hw, hequals⟩ := hfound name v hname
      rw [hw]
      exact .some hequals
    | none =>
      -- the expected names are as many as all that are bound, so there is no other
      have hsubset : expected.names ⊆ actual.names := by
        intro n hn
        obtain ⟨v, hv⟩ := Option.isSome_iff_exists.1 (mem_names_iff.1 hn)
        obtain ⟨w, hw, -⟩ := hfound n v hv
        rw [mem_names_iff, hw]
        rfl
      have hperm : expected.names.Perm actual.names :=
        Entries.keys_perm expected.nodup hsubset hsize
      have hnone : ¬ (actual.get? name).isSome := by
        rw [← mem_names_iff, ← hperm.mem_iff, mem_names_iff, hname]
        exact Bool.false_ne_true
      rw [Option.not_isSome_iff_eq_none.1 hnone]
      exact .none
  · intro h
    refine ⟨h.size_eq, fun entry hentry => (Option.any_eq_true _ _).2 ?_⟩
    have hname := h entry.1
    rw [get?_eq_some_iff.2 hentry] at hname
    cases hactual : actual.get? entry.1 with
    | none =>
      rw [hactual] at hname
      cases hname
    | some w =>
      rw [hactual, Option.rel_some_some] at hname
      exact ⟨w, rfl, hname⟩

theorem isNone_mismatch?_iff : (expected.mismatch? actual).isNone ↔ expected.SameMap actual := by
  rw [mismatch?, ← agree_iff]
  split
  · next h => exact iff_of_true rfl h
  · next h => exact iff_of_false Bool.false_ne_true h

end Bindings

/-! ## Verdicts -/

namespace FixtureCase

/-- What should happen in a case is what happened; `expected` are the decoded bindings. -/
inductive Fulfils (case : FixtureCase) (expected : Option Bindings) :
    Except MatchError (Selection String) → Prop
  | fails {e : MatchError} {part : String} (herror : case.error = some part)
    (hexpect : case.expect = none) (hmessage : part.toList <:+: e.message.toList) :
    Fulfils case expected (.error e)
  | exhausts {clauses : Nat} (herror : case.error = none) (hexpect : case.expect = none) :
    Fulfils case expected (.error (.exhausted clauses))
  | selects {selection : Selection String} (herror : case.error = none)
    (hexpect : case.expect = some selection.body)
    (hbindings : ∀ b, expected = some b → b.SameMap selection.bindings) :
    Fulfils case expected (.ok selection)

/-- The body and the detail that an evaluation leads to. -/
def judge (case : FixtureCase) (expected : Option Bindings) :
    Except MatchError (Selection String) → Option String × Option String
  | .ok selection => judgeSelection case.error expected selection
  | .error e => judgeError case.error e

/-- Whether a case passes with a body and a detail. -/
def passes (case : FixtureCase) (judged : Option String × Option String) : Bool :=
  judged.1 == case.expect && judged.2.isNone

variable {case : FixtureCase} {expected : Option Bindings}

theorem passes_iff {judged : Option String × Option String} :
    case.passes judged ↔ judged.1 = case.expect ∧ judged.2.isNone := by
  rw [passes, Bool.and_eq_true, beq_iff_eq]

theorem passes_judgeSelection {selection : Selection String} :
    case.passes (judgeSelection case.error expected selection) ↔
      case.Fulfils expected (.ok selection) := by
  rw [passes_iff]
  unfold judgeSelection
  constructor
  · rintro ⟨hexpect, hdetail⟩
    cases herror : case.error with
    | some part =>
      rw [herror] at hdetail
      cases hdetail
    | none =>
      refine .selects herror hexpect.symm fun b hb => ?_
      rw [herror, hb] at hdetail
      exact Bindings.isNone_mismatch?_iff.1 hdetail
  · rintro (_ | _ | ⟨herror, hexpect, hbindings⟩)
    refine ⟨hexpect.symm, ?_⟩
    rw [herror]
    cases expected with
    | none => rfl
    | some b => exact Bindings.isNone_mismatch?_iff.2 (hbindings b rfl)

theorem passes_judgeError {e : MatchError} :
    case.passes (judgeError case.error e) ↔ case.Fulfils expected (.error e) := by
  rw [passes_iff]
  unfold judgeError
  constructor
  · rintro ⟨hexpect, hdetail⟩
    cases herror : case.error with
    | some part =>
      rw [herror] at hdetail
      dsimp only at hdetail
      split at hdetail
      · next hmentions => exact .fails herror hexpect.symm (mentions_iff.1 hmentions)
      · cases hdetail
    | none =>
      rw [herror] at hdetail
      -- of the errors only exhaustion has no detail
      cases e with
      | exhausted clauses => exact .exhausts herror hexpect.symm
      | _ => cases hdetail
  · rintro (⟨herror, hexpect, hmessage⟩ | ⟨herror, hexpect⟩)
    · rw [herror]
      refine ⟨hexpect.symm, ?_⟩
      dsimp only
      rw [if_pos (mentions_iff.2 hmessage)]
      rfl
    · rw [herror]
      exact ⟨hexpect.symm, rfl⟩

/-- A case passes exactly when what should happen is what happened. -/
theorem passes_judge {outcome : Except MatchError (Selection String)} :
    case.passes (case.judge expected outcome) ↔ case.Fulfils expected outcome := by
  cases outcome with
  | ok selection => exact passes_judgeSelection
  | error e => exact passes_judgeError

/-! ## Runs of cases -/

/-- All that cannot be decoded in case number `index`: its subject, its scope, its bindings. -/
def failures (r : Registry) (index : Nat) (case : FixtureCase) : List EscapeError :=
  failuresOf (Value.decode r (places index).1 case.subject)
    ++ (failuresOf (Bindings.decode r (places index).2.1 case.scope)
    ++ case.bindings.toList.flatMap fun entries =>
      failuresOf (Bindings.decode r (places index).2.2 entries))

/-- The result is that of case number `index`: it passes when, with the decoded data of the case, what
should happen is what happens. -/
structure Judged (r : Registry) (expr : MatchExpr String) (index : Nat) (case : FixtureCase)
    (result : CaseResult) : Prop where
  name : result.name = case.name
  passed : ∃ subject scope expected,
    Value.decode r (places index).1 case.subject = .ok subject ∧
    Bindings.decode r (places index).2.1 case.scope = .ok scope ∧
    Option.Rel (fun entries b => Bindings.decode r (places index).2.2 entries = .ok b)
      case.bindings expected ∧
    (result.passed ↔ case.Fulfils expected (expr.evaluate subject (.ofBindings scope)).result)

variable {r : Registry} {expr : MatchExpr String}

/-- The result of a case with a body and a detail. -/
def conclude (case : FixtureCase) (judged : Option String × Option String) : CaseResult :=
  ⟨case.name, case.passes judged, case.expect, judged.1, judged.2⟩

/-- The bindings that a case expects, if it says any. -/
def expectedIn (r : Registry) (place : Identity) :
    Option (List (String × Json)) → Except EscapeError (Option Bindings)
  | some entries => some <$> Bindings.decode r place entries
  | none => .ok none

/-- A case is decoded, then evaluated, and then judged. -/
theorem run_eq (index : Nat) :
    case.run r expr index =
      Value.decode r (places index).1 case.subject >>= fun subject =>
      Bindings.decode r (places index).2.1 case.scope >>= fun scope =>
      expectedIn r (places index).2.2 case.bindings >>= fun expected =>
      .ok (case.conclude (case.judge expected (expr.evaluate subject (.ofBindings scope)).result)) := by
  unfold run
  refine congrArg (_ >>= ·) (funext fun subject => congrArg (_ >>= ·) (funext fun scope => ?_))
  cases case.bindings with
  | none => cases (expr.evaluate subject (.ofBindings scope)).result <;> rfl
  | some entries =>
    refine congrArg (_ >>= ·) (funext fun expected => ?_)
    cases (expr.evaluate subject (.ofBindings scope)).result <;> rfl

theorem failsOr_expectedIn (place : Identity) (bindings : Option (List (String × Json))) :
    FailsOr (expectedIn r place bindings)
      (bindings.toList.flatMap fun entries => failuresOf (Bindings.decode r place entries))
      (Option.Rel (fun entries b => Bindings.decode r place entries = .ok b) bindings) := by
  cases bindings with
  | none => exact .ok .none
  | some entries =>
    rw [Option.toList_some, List.flatMap_singleton]
    exact (FailsOr.self _).map fun _ hb => .some hb

theorem failsOr_run (index : Nat) :
    FailsOr (case.run r expr index) (case.failures r index) (Judged r expr index case) := by
  rw [run_eq, failures]
  refine (FailsOr.self _).bind fun subject hsubject => ?_
  refine (FailsOr.self _).bind fun scope hscope => ?_
  refine (failsOr_expectedIn _ _).map fun expected hexpected => ⟨rfl, ?_⟩
  exact ⟨subject, scope, expected, hsubject, hscope, hexpected, passes_judge⟩

theorem failsOr_runAll (cases : List FixtureCase) (index : Nat) :
    FailsOr (runAll r expr index cases)
      ((cases.zipIdx index).flatMap fun numbered => numbered.1.failures r numbered.2)
      (List.Forall₂ (fun numbered result => Judged r expr numbered.2 numbered.1 result)
        (cases.zipIdx index)) := by
  induction cases generalizing index with
  | nil => exact .ok .nil
  | cons case rest ih =>
    rw [runAll, List.zipIdx_cons, List.flatMap_cons]
    exact (failsOr_run index).bind fun result hresult =>
      (ih (index + 1)).map fun results hresults => .cons hresult hresults

end FixtureCase

namespace Fixture

variable {library : Regex.Library} {fixture : Fixture} {r : Registry} {expr : MatchExpr String}

theorem run_of_loads (h : r.loadMatch library fixture.expression = .ok expr)
    (hnone : fixture.loadError = none) :
    fixture.run library r = (FixtureCase.runAll r expr 0 fixture.cases).mapError .escape := by
  rw [run, h, hnone]

theorem run_unexpected {part : String} (h : r.loadMatch library fixture.expression = .ok expr)
    (hsome : fixture.loadError = some part) :
    fixture.run library r = .error (.unexpectedLoad fixture.name part) := by
  rw [run, h, hsome]

theorem run_rejected {part : String} {e : PatternError}
    (h : r.loadMatch library fixture.expression = .error e) (hsome : fixture.loadError = some part) :
    fixture.run library r =
      if mentions e.message part then .ok [] else .error (.load fixture.name e) := by
  rw [run, h, hsome]

theorem run_fails {e : PatternError} (h : r.loadMatch library fixture.expression = .error e)
    (hnone : fixture.loadError = none) : fixture.run library r = .error (.load fixture.name e) := by
  rw [run, h, hnone]

/-- All that cannot be decoded in the cases, in their order. -/
def failures (fixture : Fixture) (r : Registry) : List EscapeError :=
  fixture.cases.zipIdx.flatMap fun numbered => numbered.1.failures r numbered.2

/-- A fixture whose expression should load and does so. -/
theorem run_cases (h : r.loadMatch library fixture.expression = .ok expr)
    (hnone : fixture.loadError = none) :
    (∀ e, fixture.run library r = .error e ↔
      ∃ cause, (fixture.failures r).head? = some cause ∧ .escape cause = e) ∧
    ∀ results, fixture.run library r = .ok results →
      List.Forall₂ (fun numbered result => numbered.1.Judged r expr numbered.2 result)
        fixture.cases.zipIdx results := by
  have hcases : FailsOr (FixtureCase.runAll r expr 0 fixture.cases) _ _ :=
    FixtureCase.failsOr_runAll fixture.cases 0
  rw [run_of_loads h hnone]
  refine ⟨fun e => ?_, fun results hresults => hcases.holds results (mapError_eq_ok.1 hresults)⟩
  rw [mapError_eq_error]
  exact exists_congr fun cause => and_congr_left' (hcases.fails cause)

/-- A fixture whose expression should be rejected, with a message of which `part` is a part. -/
theorem run_expectsError {part : String} (hsome : fixture.loadError = some part) :
    (∀ results, fixture.run library r = .ok results ↔
      results = [] ∧ ∃ e, r.loadMatch library fixture.expression = .error e ∧
        part.toList <:+: e.message.toList) ∧
    (fixture.run library r = .error (.unexpectedLoad fixture.name part) ↔
      ∃ expr, r.loadMatch library fixture.expression = .ok expr) ∧
    ∀ e, fixture.run library r = .error (.load fixture.name e) ↔
      r.loadMatch library fixture.expression = .error e ∧ ¬ part.toList <:+: e.message.toList := by
  cases hload : r.loadMatch library fixture.expression with
  | ok expr =>
    rw [run_unexpected hload hsome]
    simp
  | error e =>
    rw [run_rejected hload hsome]
    split
    · next hmentions =>
      rw [mentions_iff] at hmentions
      refine ⟨fun results => ?_, by simp, fun e' => iff_of_false nofun ?_⟩
      · simp [hmentions, eq_comm]
      · rintro ⟨⟨⟩, hno⟩
        exact hno hmentions
    · next hmentions =>
      rw [mentions_iff] at hmentions
      refine ⟨fun results => iff_of_false nofun ?_, by simp, fun e' => ?_⟩
      · rintro ⟨-, _, ⟨⟩, hpart⟩
        exact hmentions hpart
      · constructor
        · rintro ⟨⟩
          exact ⟨rfl, hmentions⟩
        · rintro ⟨⟨⟩, -⟩
          rfl

/-- Without a text that its error should have, a fixture fails as loading its expression or as the first
piece of data that cannot be decoded, and otherwise it has a verdict on each case in turn. With such a
text it should fail, and does so as its expression loads, or fails with another message. -/
theorem run_judges (library : Regex.Library) (fixture : Fixture) (r : Registry) :
    (∀ expr, r.loadMatch library fixture.expression = .ok expr → fixture.loadError = none →
      (∀ e, fixture.run library r = .error e ↔
        ∃ cause, (fixture.failures r).head? = some cause ∧ .escape cause = e) ∧
      ∀ results, fixture.run library r = .ok results →
        List.Forall₂ (fun numbered result => numbered.1.Judged r expr numbered.2 result)
          fixture.cases.zipIdx results) ∧
    (∀ part, fixture.loadError = some part →
      (∀ results, fixture.run library r = .ok results ↔
        results = [] ∧ ∃ e, r.loadMatch library fixture.expression = .error e ∧
          part.toList <:+: e.message.toList) ∧
      (fixture.run library r = .error (.unexpectedLoad fixture.name part) ↔
        ∃ expr, r.loadMatch library fixture.expression = .ok expr) ∧
      ∀ e, fixture.run library r = .error (.load fixture.name e) ↔
        r.loadMatch library fixture.expression = .error e ∧ ¬ part.toList <:+: e.message.toList) ∧
    (fixture.loadError = none → ∀ e, fixture.run library r = .error (.load fixture.name e) ↔
      r.loadMatch library fixture.expression = .error e) := by
  refine ⟨fun expr => run_cases, fun part => run_expectsError, fun hnone e => ?_⟩
  cases hload : r.loadMatch library fixture.expression with
  | ok expr =>
    refine iff_of_false (fun h => ?_) nofun
    obtain ⟨cause, -, hcause⟩ := ((run_cases hload hnone).1 _).1 h
    cases hcause
  | error e' =>
    rw [run_fails hload hnone]
    simp

/-- Takes the content of an optional value, with a test of the content. The second case expects that
nothing is selected, and the third one another binding than there is. -/
def openedOption : Fixture where
  name := "option"
  description := "An optional value with a content"
  expression := {
    clauses := [{
      capture := none
      pattern := some (.extractor ⟨"test.v1.OptionSome", .object []⟩ (some (.bind "val")))
      guard := some (.bound "val")
      body := "some" }]
    default := none }
  loadError := none
  cases := [
    ⟨"content", .object [("$some", .text "a")], [], some "some", some [("val", .text "a")], none⟩,
    ⟨"no content", .object [("$none", .null)], [], none, none, none⟩,
    ⟨"other content", .object [("$some", .text "a")], [], some "some", some [("val", .null)], none⟩]

/-- Names a constant that is not registered, and says so. -/
def unknownConstant (loadError : Option String) : Fixture where
  name := "constant"
  description := "A constant that is not registered"
  expression := ⟨[⟨none, some (.constant "TAB"), none, "tab"⟩], none⟩
  loadError := loadError
  cases := []

theorem run_judges_openedOption :
    (∃ expr results, Domain.registry.loadMatch Regex.builtIn openedOption.expression = .ok expr ∧
      openedOption.run Regex.builtIn Domain.registry = .ok results ∧
      results.map (·.passed) = [true, true, false] ∧
      List.Forall₂ (fun numbered result =>
        numbered.1.Judged Domain.registry expr numbered.2 result)
        openedOption.cases.zipIdx results) ∧
    (unknownConstant (some "TAB")).run Regex.builtIn Domain.registry = .ok [] ∧
    ∃ e, (unknownConstant none).run Regex.builtIn Domain.registry = .error (.load "constant" e) := by
  have hruns : (openedOption.run Regex.builtIn Domain.registry).toOption.isSome := by decide +kernel
  have hpassed : (openedOption.run Regex.builtIn Domain.registry).toOption.map (fun results =>
      results.map (·.passed)) = some [true, true, false] := by decide +kernel
  obtain ⟨results, hrun⟩ := exists_eq_ok hruns
  have hrejected : ∃ e,
      Domain.registry.loadMatch Regex.builtIn (unknownConstant none).expression = .error e ∧
      "TAB".toList <:+: e.message.toList :=
    ⟨.unknownName "TAB" .constant ["CR", "LF"], rfl, PatternError.infix_message_unknownName ..⟩
  obtain ⟨e, he, hmessage⟩ := hrejected
  refine ⟨?_, ?_, ⟨e, ?_⟩⟩
  · obtain ⟨expr, hload⟩ : ∃ expr,
        Domain.registry.loadMatch Regex.builtIn openedOption.expression = .ok expr := ⟨_, rfl⟩
    rw [hrun] at hpassed
    exact ⟨expr, results, hload, hrun, Option.some.inj hpassed,
      ((run_judges Regex.builtIn openedOption Domain.registry).1 expr hload rfl).2 results hrun⟩
  · exact (((run_judges Regex.builtIn (unknownConstant (some "TAB")) _).2.1 "TAB" rfl).1 []).2
      ⟨rfl, e, he, hmessage⟩
  · exact ((run_judges Regex.builtIn (unknownConstant none) _).2.2 rfl e).2 he

end Fixture

end Destructure
