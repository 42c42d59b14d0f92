import Destructure.Proofs.CommandLine.Safety
import Destructure.Proofs.Regex.BuiltIn
import Destructure.Proofs.Regex.Stretches

set_option autoImplicit false

/-! # What is shown of a selection

An evaluation shows the bindings of its selection as a data tree. They are well-formed when the subject
is, because the extensions of the reference domain, and the engines of a documented library, find nothing
in data that is not a part of it, or a stretch of a text, or a position
(`EvalOptions.wellFormed_bindings`). So the tree that is shown gives the bindings again. -/

namespace Destructure

variable {library : Regex.Library}

namespace Domain

/-- What an extractor of the domain finds in data is the subject itself. -/
theorem offers_of_mem {typeUrl : String} {make : ExtractorFactory} {settings : Json}
    {source : Extractor} (hentry : .extractor typeUrl make ∈ entries)
    (h : make settings = .ok source) {subject target : Value} (hdata : subject.IsData)
    (htarget : (source.extract subject).Offers target) : target = subject := by
  rcases source_of_mem hentry h with ⟨kind, rfl⟩ | rfl | rfl
  · simp only [Extractor.ofKind] at htarget
    split at htarget
    · exact Extraction.offers_produced htarget
    · exact absurd htarget (Extraction.not_offers_rejected target)
  · simp only [someExtractor, optional?_of_isData hdata] at htarget
    exact absurd htarget (Extraction.not_offers_rejected target)
  · simp only [noneExtractor, optional?_of_isData hdata] at htarget
    exact absurd htarget (Extraction.not_offers_rejected target)

/-- A node that takes its extension from the domain hands on well-formed values. -/
theorem handsOn_of_registered (hlibrary : library.Documented) {p : Pattern}
    (h : p.Registered library registry) : p.HandsOn Value.WellFormed := by
  cases p with
  | extractor source inner =>
    obtain ⟨typeUrl, make, settings, hmake, hsource⟩ := h
    have hentry := (Registry.from_ofList entries).extractors _ _ hmake
    intro subject hsubject _ target htarget
    rwa [offers_of_mem hentry hsource hsubject.portable.data htarget]
  | regex engine inner =>
    obtain ⟨expression, hengine⟩ := h
    obtain ⟨m, hcompile, rfl⟩ := exists_matcher_of_compileExpression hengine
    exact (hlibrary expression m hcompile).handsOn
  | _ => trivial

end Domain

namespace EvalOptions

/-- What is bound when a well-formed subject is evaluated is well-formed. -/
theorem wellFormed_bindings (hlibrary : library.Documented) {options : EvalOptions}
    {config : MatchConfig String} {selection : Selection String}
    (hsubject : options.subject.WellFormed)
    (h : options.select library config = .ok selection) : selection.bindings.toValue.WellFormed := by
  refine .mapping selection.bindings.nodup ?_
  obtain ⟨expr, hload, hresult⟩ := select_eq_ok.1 h
  obtain ⟨index, body, b⟩ := selection
  cases index with
  | none =>
    -- the default binds nothing
    obtain ⟨-, -, rfl⟩ := MatchExpr.evaluate_eq_default.1 hresult
    exact List.forall_mem_nil _
  | some i =>
    obtain ⟨clause, ⟨hclause, -⟩, ⟨houtcome, -⟩, -⟩ := MatchExpr.evaluate_eq_clause.1 hresult
    obtain ⟨c, -, hloads⟩ := Domain.clause_of_loadMatch hload hclause
    exact Compiled.inherits Value.inherited_wellFormed
      (hloads.pattern.mono fun _ => Domain.handsOn_of_registered hlibrary)
      (Value.wellFormed_ofJson hsubject) houtcome

end EvalOptions

namespace Value

/-- What becomes of values on the way to data trees and back.

* A value comes back equal to itself just when it holds no function, no domain object, and no number that
  is not finite, at any depth.
* Then it comes back as it was, with every mapping in its order, but for the signs of zeros.
* A data tree that was made from a value is made again from what comes back.
* The bindings of a selection from a well-formed subject come back like that from the tree that an
  evaluation shows, if expressions are compiled by a documented library. -/
theorem toJson_comesBack :
    (∀ v : Value, v.DistinctKeys → ((ofJson v.toJson).equals v ↔ v.Portable)) ∧
    (∀ v : Value, v.Portable → ofJson v.toJson = v.mapNumbers Number.unsignedZero) ∧
    (∀ v : Value, (ofJson v.toJson).toJson = v.toJson) ∧
    ∀ library : Regex.Library, library.Documented →
      ∀ (options : EvalOptions) (config : MatchConfig String) (selection : Selection String),
      options.subject.WellFormed → options.select library config = .ok selection →
        (ofJson selection.bindings.toValue.toJson).equals selection.bindings.toValue ∧
        ofJson selection.bindings.toValue.toJson
          = selection.bindings.toValue.mapNumbers Number.unsignedZero := by
  refine ⟨fun v => equals_ofJson_toJson_iff, fun v => ofJson_toJson, toJson_ofJson_toJson, ?_⟩
  intro library hlibrary options config selection hsubject hselect
  have hbindings := EvalOptions.wellFormed_bindings hlibrary hsubject hselect
  exact ⟨(equals_ofJson_toJson_iff hbindings.distinctKeys).2 hbindings.portable,
    ofJson_toJson hbindings.portable⟩

/-- A negative zero before a null, under keys that are not in alphabetic order. -/
def zeroEntries : List (String × Value) := [("zero", .number (.ofMagnitude true 0)), ("null", .null)]

/-- What stands in a body, and what stands beside the body. -/
def bodyAndOthers : MatchConfig String where
  clauses := [⟨some (.mapping [("body", .regex "a+" (some (.bind "found")))] (some "others")), none, none,
    "body"⟩]
  default := none

/-- A text beside a negative zero and an integer. -/
def textBesideZero : Json :=
  .object [("zero", .float (.ofMagnitude true 0)), ("body", .text "caat"), ("count", .int 3)]

theorem wellFormed_textBesideZero : textBesideZero.WellFormed := by
  refine .object (by decide) ?_
  simp only [List.forall_mem_cons, List.not_mem_nil, false_imp_iff, implies_true, and_true]
  exact ⟨.float (by decide), .text (by decide), .int (by decide) (by decide)⟩

theorem toJson_comesBack_zero :
    (ofJson (mapping zeroEntries).toJson).equals (mapping zeroEntries) ∧
      ofJson (mapping zeroEntries).toJson = mapping [("zero", .number .zero), ("null", .null)] ∧
      ∃ selection,
        EvalOptions.select Regex.builtIn ⟨textBesideZero, .empty⟩ bodyAndOthers = .ok selection ∧
        selection.bindings.names = ["found", "others"] ∧
        (ofJson selection.bindings.toValue.toJson).equals selection.bindings.toValue := by
  obtain ⟨hequals, hback, -, hselection⟩ := toJson_comesBack
  have hdistinct : (mapping zeroEntries).DistinctKeys := by
    refine .mapping (by decide) ?_
    simp only [zeroEntries, List.forall_mem_cons, List.not_mem_nil, false_imp_iff, implies_true,
      and_true]
    exact ⟨.number _, .null⟩
  have hportable : (mapping zeroEntries).Portable := by
    refine portable_mapping_iff.2 ?_
    simp only [zeroEntries, List.forall_mem_cons, List.not_mem_nil, false_imp_iff, implies_true,
      and_true]
    exact ⟨portable_number_iff.2 (by decide), portable_leaf .null (by simp) rfl⟩
  refine ⟨(hequals _ hdistinct).2 hportable, hback _ hportable, ?_⟩
  have hnames : (fun selection => selection.bindings.names)
      <$> EvalOptions.select Regex.builtIn ⟨textBesideZero, .empty⟩ bodyAndOthers
        = .ok ["found", "others"] := by rfl
  obtain ⟨selection, hselect, hnames⟩ := map_eq_ok.1 hnames
  exact ⟨selection, hselect, hnames,
    (hselection _ Regex.documented_builtIn _ _ _ wellFormed_textBesideZero hselect).1⟩

end Value

end Destructure
