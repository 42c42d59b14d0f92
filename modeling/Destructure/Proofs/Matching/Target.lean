import Destructure.Proofs.Matching.Calls
import Destructure.Proofs.Pattern.Shape

set_option autoImplicit false

/-! # What an inner pattern is matched against

An extractor or an expression hands over one value to its inner pattern, or breaks its contract.
`Extraction.HandsOver` is the rule, in terms of the structures that the inner pattern demands: groups
of the one kind that is demanded, or else the value, or else the groups as a value where the pattern
does not settle on one structure. `Extraction.target` follows it (`Extraction.target_eq_ok_iff`), so a
node with an inner pattern does what `Source.TakesApart` says, whatever stands around it. -/

namespace Destructure

/-! ## The rule -/

namespace Extraction

/-- The value is what the extraction hands over to a pattern that demands these structures. -/
inductive HandsOver (extraction : Extraction) (demanded : Set Kind) : Value → Prop
  /-- Groups of the one kind that is demanded come first. -/
  | groups {groups : Groups} (hgroups : extraction.groups = some groups)
      (hkind : demanded = {groups.kind}) : HandsOver extraction demanded groups.toValue
  /-- Where there are none, the value is next. -/
  | value {value : Value}
      (hgroups : ∀ groups, extraction.groups = some groups → demanded ≠ {groups.kind})
      (hvalue : extraction.value = some value) : HandsOver extraction demanded value
  /-- Without a value, groups are one for a pattern that demands no structure or both. -/
  | plain {groups : Groups} (hgroups : extraction.groups = some groups)
      (hvalue : extraction.value = none)
      (hkind : demanded = ∅ ∨ {.sequence, .mapping} ⊆ demanded) :
      HandsOver extraction demanded groups.toValue

/-- At most one value is handed over. -/
theorem HandsOver.unique {extraction : Extraction} {demanded : Set Kind} {a b : Value}
    (ha : extraction.HandsOver demanded a) (hb : extraction.HandsOver demanded b) : a = b := by
  cases ha with
  | groups hgroups hkind =>
    cases hb with
    | groups hgroups' _ | plain hgroups' _ _ =>
      obtain rfl := Option.some.inj (hgroups.symm.trans hgroups')
      rfl
    | value hother _ => exact absurd hkind (hother _ hgroups)
  | value hother hvalue =>
    cases hb with
    | groups hgroups hkind => exact absurd hkind (hother _ hgroups)
    | value _ hvalue' => exact Option.some.inj (hvalue.symm.trans hvalue')
    | plain _ hnone _ => exact absurd (hvalue.symm.trans hnone) (by simp)
  | plain hgroups hnone _ =>
    cases hb with
    | groups hgroups' _ | plain hgroups' _ _ =>
      obtain rfl := Option.some.inj (hgroups.symm.trans hgroups')
      rfl
    | value _ hvalue => exact absurd (hvalue.symm.trans hnone) (by simp)

/-- Nothing is handed over that was not produced. -/
theorem HandsOver.produced {extraction : Extraction} {demanded : Set Kind} {target : Value}
    (h : extraction.HandsOver demanded target) :
    extraction.value = some target ∨ ∃ groups ∈ extraction.groups, groups.toValue = target := by
  cases h with
  | groups hgroups _ | plain hgroups _ _ => exact .inr ⟨_, hgroups, rfl⟩
  | value _ hvalue => exact .inl hvalue

end Extraction

/-- The shape of a pattern for such groups. -/
def Groups.shape : Groups → Shape
  | .sequence _ => .sequence
  | .mapping _ => .mapping

namespace Shape

/-- Groups are of the kind of the one structure that is demanded when they are for that shape. -/
theorem kinds_eq_singleton_iff {s : Shape} {groups : Groups} :
    (s.kinds : Set Kind) = {groups.kind} ↔ s = groups.shape := by
  rw [← Finset.coe_singleton, Finset.coe_inj, ← kinds_injective.eq_iff]
  cases groups <;> exact Iff.rfl

/-- No structure or both: the shape does not settle on one. -/
theorem kinds_unsettled_iff {s : Shape} :
    ((s.kinds : Set Kind) = ∅ ∨ {.sequence, .mapping} ⊆ (s.kinds : Set Kind)) ↔
      s = .any ∨ s = .mixed := by
  have hboth : ({.sequence, .mapping} : Set Kind) = ((mixed.kinds : Finset Kind) : Set Kind) := by
    simp [kinds]
  rw [hboth, Finset.coe_subset, Finset.coe_eq_empty]
  cases s <;> decide

end Shape

namespace Extraction

/-- The choice of the target, one question after the other. -/
theorem target_eq (extraction : Extraction) (s : Shape) : extraction.target s =
    match extraction.groups, extraction.value with
    | some groups, value =>
      if s = groups.shape then .ok groups.toValue
      else match value with
        | some value => .ok value
        | none =>
          if s = .any ∨ s = .mixed then .ok groups.toValue
          else .error (.otherGroups groups.kind (demandedKind s))
    | none, some value => .ok value
    | none, none => .error .nothingProduced := by
  obtain ⟨matched, value | value, groups | (items | entries)⟩ := extraction <;> cases s <;> rfl

/-- The target of an extraction is what it hands over. -/
theorem target_eq_ok_iff {extraction : Extraction} {p : Pattern} {target : Value} :
    extraction.target p.shape = .ok target ↔ extraction.HandsOver p.demanded target := by
  have hkind {groups : Groups} : p.demanded = {groups.kind} ↔ p.shape = groups.shape := by
    rw [Pattern.demanded_eq, Shape.kinds_eq_singleton_iff]
  have hplain : (p.demanded = ∅ ∨ {.sequence, .mapping} ⊆ p.demanded) ↔
      p.shape = .any ∨ p.shape = .mixed := by
    rw [Pattern.demanded_eq, Shape.kinds_unsettled_iff]
  rw [target_eq]
  constructor
  · intro h
    split at h
    · next groups value hgroups =>
      split at h
      · next hshape =>
        obtain rfl := Except.ok.inj h
        exact .groups hgroups (hkind.2 hshape)
      · next hshape =>
        split at h
        · next found hvalue =>
          obtain rfl := Except.ok.inj h
          refine .value (fun other hother => ?_) hvalue
          obtain rfl := Option.some.inj (hgroups.symm.trans hother)
          exact fun he => hshape (hkind.1 he)
        · next hvalue =>
          split at h
          · next hs =>
            obtain rfl := Except.ok.inj h
            exact .plain hgroups hvalue (hplain.2 hs)
          · cases h
    · next value hgroups hvalue =>
      obtain rfl := Except.ok.inj h
      exact .value (by simp [hgroups]) hvalue
    · cases h
  · intro h
    cases h with
    | groups hgroups hdemanded =>
      simp only [hgroups, if_pos (hkind.1 hdemanded)]
    | value hgroups hvalue =>
      cases hfound : extraction.groups with
      | none => simp only [hvalue]
      | some groups =>
        have hshape : ¬ p.shape = groups.shape := fun hs => hgroups groups hfound (hkind.2 hs)
        simp only [hvalue, if_neg hshape]
    | plain hgroups hvalue hdemanded =>
      simp only [hgroups, hvalue, if_pos (hplain.1 hdemanded), ite_self]

/-- An extraction that hands over nothing breaks the contract. -/
theorem exists_target_eq_error {extraction : Extraction} {p : Pattern}
    (h : ∀ target, ¬ extraction.HandsOver p.demanded target) :
    ∃ fault, extraction.target p.shape = .error fault := by
  cases htarget : extraction.target p.shape with
  | error fault => exact ⟨fault, rfl⟩
  | ok target => exact absurd (target_eq_ok_iff.1 htarget) (h target)

end Extraction

/-! ## Nodes that take their subject apart -/

/-- What a node takes its subject apart with. -/
inductive Source where
  | extractor (e : Extractor)
  | regex (engine : Regex.Engine)

namespace Source

/-- The name in errors. -/
def name : Source → String
  | .extractor e => e.name
  | .regex engine => engine.source

def extract : Source → Value → Extraction
  | .extractor e => e.extract
  | .regex engine => engine.extract

/-- The call for a subject. -/
def event : Source → Value → Event
  | .extractor e => .extract e
  | .regex engine => .search engine

/-- The node, with an inner pattern or bare. -/
def node : Source → Option Pattern → Pattern
  | .extractor e, inner => .extractor e inner
  | .regex engine, inner => .regex engine inner

variable (source : Source)

/-- A node calls its source, and goes on with what it reports. -/
theorem attempt_node (inner : Option Pattern) (scope : Scope) (site : Site) (subject : Value)
    (out : Bindings) : (source.node inner).attempt scope site subject out
      = Run.called ⟨site, source.event subject⟩ (.ok (source.extract subject)) >>=
          fun extraction => Pattern.attemptInner inner scope site source.name extraction out := by
  cases source <;> rw [node, Pattern.attempt] <;> rfl

section Outcomes

variable {source} {p : Pattern} {scope : Scope} {site : Site} {subject : Value} {out : Bindings}

/-- A subject that is not accepted is not matched, whatever was produced. -/
theorem attempt_of_not_matched (hmatched : (source.extract subject).matched = false) :
    (source.node (some p)).attempt scope site subject out
      = Run.called ⟨site, source.event subject⟩ (.ok (false, out)) := by
  rw [attempt_node, Run.bind_of_ok rfl, Pattern.attemptInner, hmatched]
  rfl

/-- The inner pattern is matched against what is handed over. -/
theorem attempt_of_handsOver {target : Value} (hmatched : (source.extract subject).matched)
    (htarget : (source.extract subject).HandsOver p.demanded target) :
    (source.node (some p)).attempt scope site subject out
      = Run.called ⟨site, source.event subject⟩ (.ok ()) >>=
          fun _ => p.attempt scope (site ++ [0]) target out := by
  rw [attempt_node, Run.bind_of_ok rfl, Run.bind_of_ok rfl, Pattern.attemptInner, hmatched,
    if_pos rfl, Extraction.target_eq_ok_iff.2 htarget]
  rfl

/-- Where nothing is handed over the node fails. -/
theorem attempt_of_not_handsOver (hmatched : (source.extract subject).matched)
    (hnothing : ∀ target, ¬ (source.extract subject).HandsOver p.demanded target) :
    ∃ fault, (source.node (some p)).attempt scope site subject out
      = Run.called ⟨site, source.event subject⟩ (.error (.extractorContract source.name fault)) := by
  obtain ⟨fault, hfault⟩ := Extraction.exists_target_eq_error hnothing
  refine ⟨fault, ?_⟩
  rw [attempt_node, Run.bind_of_ok rfl, Pattern.attemptInner, hmatched, if_pos rfl, hfault]
  rfl

end Outcomes

/-- What a node does with an inner pattern.

* A subject that is not accepted is not matched, whatever was produced.
* What is handed over is matched against the inner pattern, and nothing else is.
* If nothing is handed over, the contract is broken: the node fails, and so does every match of a
  pattern that comes to such a node, wherever it stands. -/
structure TakesApart (p : Pattern) : Prop where
  rejected : ∀ scope site subject out, (source.extract subject).matched = false →
    (source.node (some p)).attempt scope site subject out
      = Run.called ⟨site, source.event subject⟩ (.ok (false, out))
  handed : ∀ scope site subject out target, (source.extract subject).matched →
    (source.extract subject).HandsOver p.demanded target →
      (source.node (some p)).attempt scope site subject out
        = Run.called ⟨site, source.event subject⟩ (.ok ()) >>=
            fun _ => p.attempt scope (site ++ [0]) target out
  broken : ∀ scope site subject out, (source.extract subject).matched →
    (∀ target, ¬ (source.extract subject).HandsOver p.demanded target) →
      ∃ fault, (source.node (some p)).attempt scope site subject out
        = Run.called ⟨site, source.event subject⟩ (.error (.extractorContract source.name fault))
  breaks : ∀ (c : Compiled) s, c.pattern.node? s = some (source.node (some p)) →
    ∀ subject scope site value,
      ⟨site ++ s, source.event value⟩ ∈ (c.matchIn subject scope site).calls →
        (source.extract value).matched →
          (∀ target, ¬ (source.extract value).HandsOver p.demanded target) →
            ∃ fault, (c.matchIn subject scope site).result
              = .error (.extractorContract source.name fault)

/-- A source breaks its contract at a node when nothing is handed over. -/
theorem fails_node {p : Pattern} {value : Value} {fault : ContractFault}
    (hmatched : (source.extract value).matched)
    (hfault : (source.extract value).target p.shape = .error fault) :
    (source.node (some p)).Fails (source.event value) (.extractorContract source.name fault) := by
  cases source with
  | extractor e => exact .extractor hmatched hfault
  | regex engine => exact .regex hmatched hfault

/-- A node matches its inner pattern against the one value that is handed over, by the structures
that the pattern demands. These are known from the nodes without members that it reaches, so the
target does not depend on the order, the repetition or the nesting of members. -/
theorem takesApart (p : Pattern) :
    source.TakesApart p ∧
      (∀ (extraction : Extraction) a b, extraction.HandsOver p.demanded a →
        extraction.HandsOver p.demanded b → a = b) ∧
      ∀ q : Pattern, (∀ leaf, leaf.members = [] → (p.Reaches leaf ↔ q.Reaches leaf)) →
        ∀ extraction : Extraction, extraction.target p.shape = extraction.target q.shape := by
  refine ⟨?_, fun _ _ _ => Extraction.HandsOver.unique, fun q hleaves extraction => ?_⟩
  · constructor
    · exact fun _ _ _ _ => attempt_of_not_matched
    · exact fun _ _ _ _ _ => attempt_of_handsOver
    · exact fun _ _ _ _ => attempt_of_not_handsOver
    · intro c s hnode subject scope site value hcall hmatched hnothing
      obtain ⟨fault, hfault⟩ := Extraction.exists_target_eq_error hnothing
      refine ⟨fault, ((c.callsInOrder subject scope site).failing _ hcall _ ?_).2⟩
      exact ⟨s, _, rfl, hnode, source.fails_node hmatched hfault⟩
  · rw [Pattern.shape_eq_iff.2 (Pattern.demanded_congr hleaves)]

/-- Produces its subject, and also has it in a named group. -/
def itself : Source :=
  .extractor ⟨"It", "It", fun subject => ⟨true, some subject, some (.mapping [("it", subject)])⟩,
    fun _ => []⟩

/-- One item in a mapping, or in a sequence. -/
def oneItem : List Pattern := [.mapping [("it", .binder "x")] none, .sequence [some (.binder "x")] none]

/-- Where both structures are demanded the value is handed over, and the groups are not, even though
they would match. That stays so when the two stand in another order, twice and one level below. -/
theorem takesApart_oneItem :
    ((itself.node (some (.alternation oneItem))).attempt .root [] (.sequence [.null]) .empty).result
        = .ok (true, Bindings.empty.bind "x" .null) ∧
      (itself.extract .null).target (Pattern.alternation oneItem).shape
        = (itself.extract .null).target
            (Pattern.conjunction [.alternation oneItem.reverse, .alternation oneItem]).shape := by
  obtain ⟨htakes, -, hleaves⟩ := itself.takesApart (.alternation oneItem)
  have hother : (Pattern.alternation oneItem).demanded ≠ {Kind.mapping} := by
    rw [Pattern.demanded_eq, ← Finset.coe_singleton, Ne, Finset.coe_inj]
    decide
  constructor
  · rw [htakes.handed .root [] (.sequence [.null]) .empty (.sequence [.null]) rfl
      (.value (by rintro groups ⟨⟩; exact hother) rfl)]
    cbv
  · refine hleaves _ (fun leaf hleaf => ?_) _
    have hbranches (p : Pattern) (ps : List Pattern) :
        (Pattern.alternation (p :: ps)).Reaches leaf ↔ ∃ q ∈ p :: ps, q.Reaches leaf :=
      Pattern.reaches_leaf_iff (List.cons_ne_nil p ps) hleaf
    have hmembers (p : Pattern) (ps : List Pattern) :
        (Pattern.conjunction (p :: ps)).Reaches leaf ↔ ∃ q ∈ p :: ps, q.Reaches leaf :=
      Pattern.reaches_leaf_iff (List.cons_ne_nil p ps) hleaf
    simp [hbranches, hmembers, oneItem, or_comm]

end Source

end Destructure
