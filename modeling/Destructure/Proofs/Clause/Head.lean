import Destructure.Clause.Head
import Destructure.Proofs.Matching.Target

set_option autoImplicit false

/-! # A capture under a test

A test that is a bare extractor or a bare expression takes the capture in, and any other test stands
beside it. These are different trees with one law of acceptance: each part must be accepted, with room
for a root above it, and the two must not share a name (`Head.fits_join_iff`). What a match does depends
on the test: the capture goes on with the same subject, or with what the test hands over
(`Head.compile_pattern_both`). -/

namespace Destructure

namespace Source

variable (source : Source) (inner : Option Pattern)

@[simp] theorem parts_node : (source.node inner).parts = inner.toList := by
  cases source <;> simp [node]

@[simp] theorem declared_node :
    (source.node inner).declared = inner.toList.flatMap Pattern.declared := by
  cases source <;> simp [node]

theorem coherent_node_iff :
    (source.node inner).Coherent ↔ (source.node inner).declared.Nodup := by
  have hnarrow : (source.node inner).Narrow := by
    cases source <;> cases inner <;> simp [node, Pattern.Narrow, Pattern.children, maxBranches]
  rw [Pattern.coherent_iff, and_iff_left hnarrow]
  apply Pattern.tidy_iff_nodup
  · cases source <;> simp [node]
  · cases source <;> rfl
  · cases source <;> simp [node]

end Source

namespace Head

open Pattern

variable {capture test : Pattern}

/-! ## The tree -/

/-- A bare extractor or expression takes the capture in, and any other test stands before it. -/
theorem join_eq (capture test : Pattern) :
    (∃ source : Source, test = source.node none ∧
      join capture test = source.node (some capture)) ∨
    (∀ source : Source, test ≠ source.node none) ∧
      join capture test = .conjunction [test, capture] := by
  unfold join
  split
  · exact .inl ⟨.extractor _, rfl, rfl⟩
  · exact .inl ⟨.regex _, rfl, rfl⟩
  · next hextractor hregex =>
    refine .inr ⟨fun source => ?_, rfl⟩
    cases source with
    | extractor e => exact hextractor e
    | regex engine => exact hregex engine

@[simp] theorem join_node (source : Source) :
    join capture (source.node none) = source.node (some capture) := by
  cases source <;> rfl

theorem declared_join : (join capture test).declared = test.declared ++ capture.declared := by
  rcases join_eq capture test with ⟨source, rfl, hjoin⟩ | ⟨-, hjoin⟩ <;> simp [hjoin]

theorem height_join : (join capture test).height = 1 + max test.height capture.height := by
  rcases join_eq capture test with ⟨source, rfl, hjoin⟩ | ⟨-, hjoin⟩
  · -- the test is a single node, so the capture is no lower
    have hcapture := height_eq capture
    simp only [hjoin, height_eq (source.node _), source.parts_node, Option.toList_some,
      Option.toList_none, maxHeight_cons, maxHeight_nil]
    omega
  · simp only [hjoin, height_eq (conjunction _), parts_conjunction, maxHeight_cons, maxHeight_nil]
    omega

/-- One law for both trees. -/
theorem fits_join_iff : (join capture test).Fits 1 ↔
    test.Fits 2 ∧ capture.Fits 2 ∧ (test.declared ++ capture.declared).Nodup := by
  rw [fits_iff, ← declared_join]
  rcases join_eq capture test with ⟨source, rfl, hjoin⟩ | ⟨-, hjoin⟩
  · -- the test is the root, and as a pattern of its own it always fits below one
    have htest : (source.node none).Fits 2 :=
      fits_iff.2 ⟨by decide, (source.coherent_node_iff none).2 (by simp), by simp⟩
    simp only [hjoin, source.coherent_node_iff, source.parts_node, htest, true_and,
      Option.toList_some, List.forall_mem_singleton]
    exact ⟨fun h => h.2.symm, fun h => ⟨by decide, h.symm⟩⟩
  · have hnarrow : (conjunction [test, capture]).Narrow := by simp [Narrow, children, maxBranches]
    rw [hjoin, parts_conjunction, List.forall_mem_cons, List.forall_mem_singleton, coherent_iff,
      and_iff_left hnarrow, tidy_iff_nodup (by simp) rfl (by simp)]
    constructor
    · rintro ⟨-, hnodup, htest, hcapture⟩
      exact ⟨htest, hcapture, hnodup⟩
    · rintro ⟨htest, hcapture, hnodup⟩
      exact ⟨by decide, hnodup, htest, hcapture⟩

/-- Accepted are a test and a capture that are accepted, share no name and leave room for a root. -/
theorem exists_compile_join_iff : (∃ whole, (join capture test).compile = .ok whole) ↔
    ∃ t c, test.compile = .ok t ∧ capture.compile = .ok c ∧ t.binders.Disjoint c.binders ∧
      t.depth < maxDepth ∧ c.depth < maxDepth := by
  rw [exists_compile_iff, fits_join_iff, fits_two_iff, fits_two_iff, List.nodup_append']
  constructor
  · rintro ⟨⟨htest, hdeep⟩, ⟨hcapture, hdeep'⟩, -, -, hdisjoint⟩
    obtain ⟨t, ht⟩ := exists_compile_iff.2 htest
    obtain ⟨c, hc⟩ := exists_compile_iff.2 hcapture
    obtain rfl := compile_eq_ok.1 ht
    obtain rfl := compile_eq_ok.1 hc
    rw [← t.binders_eq, ← c.binders_eq] at hdisjoint
    rw [← t.depth_eq] at hdeep
    rw [← c.depth_eq] at hdeep'
    exact ⟨t, c, ht, hc, hdisjoint, hdeep, hdeep'⟩
  · rintro ⟨t, c, ht, hc, hdisjoint, hdeep, hdeep'⟩
    obtain rfl := compile_eq_ok.1 ht
    obtain rfl := compile_eq_ok.1 hc
    rw [t.depth_eq] at hdeep
    rw [c.depth_eq] at hdeep'
    rw [t.binders_eq, c.binders_eq] at hdisjoint
    exact ⟨⟨t.fits, hdeep⟩, ⟨c.fits, hdeep'⟩, t.fits.2.root.declared_nodup,
      c.fits.2.root.declared_nodup, hdisjoint⟩

end Head

/-! ## Matching -/

/-- The whole matches its capture against what the source hands over, and against nothing else.

* A subject that is not accepted is not matched.
* What is handed over goes to the capture, whose outcome is that of the whole.
* If nothing is handed over, the contract is broken.
* Whatever is handed over was produced: the subject is not, unless it was. -/
structure Source.Feeds (source : Source) (capture whole : Compiled) : Prop where
  rejected : ∀ subject scope site, (source.extract subject).matched = false →
    whole.matchIn subject scope site = Run.called ⟨site, source.event subject⟩ (.ok .noMatch)
  handed : ∀ subject scope site target, (source.extract subject).matched →
    (source.extract subject).HandsOver capture.pattern.demanded target →
      whole.matchIn subject scope site
        = Run.called ⟨site, source.event subject⟩ (.ok ()) >>=
            fun _ => capture.matchIn target scope (site ++ [0])
  broken : ∀ subject scope site, (source.extract subject).matched →
    (∀ target, ¬ (source.extract subject).HandsOver capture.pattern.demanded target) →
      ∃ fault, whole.matchIn subject scope site
        = Run.called ⟨site, source.event subject⟩ (.error (.extractorContract source.name fault))
  produced : ∀ subject target,
    (source.extract subject).HandsOver capture.pattern.demanded target →
      (source.extract subject).value = some target ∨
        ∃ groups ∈ (source.extract subject).groups, groups.toValue = target

theorem Source.feeds {source : Source} {capture whole : Compiled}
    (h : whole.pattern = source.node (some capture.pattern)) : source.Feeds capture whole where
  rejected subject scope site hmatched := by
    rw [Compiled.matchIn, h, attempt_of_not_matched hmatched]
    rfl
  handed subject scope site target hmatched htarget := by
    rw [Compiled.matchIn, h, attempt_of_handsOver hmatched htarget, bind_assoc]
    rfl
  broken subject scope site hmatched hnothing := by
    obtain ⟨fault, hfault⟩ := attempt_of_not_handsOver hmatched hnothing
    refine ⟨fault, ?_⟩
    rw [Compiled.matchIn, h, hfault]
    rfl
  produced _ _ htarget := htarget.produced

namespace Head

open Pattern

/-- Two members are matched one after the other. -/
theorem matchIn_of_pair {t c whole : Compiled}
    (h : whole.pattern = .conjunction [t.pattern, c.pattern]) (subject : Value) (scope : Scope)
    (site : Site) : Outcome.pairs? <$> whole.matchIn subject scope site
      = Reading.both (Outcome.pairs? <$> t.matchIn subject scope (site ++ [0]))
          (Outcome.pairs? <$> c.matchIn subject scope (site ++ [1])) := by
  rw [whole.matchIn_reads, t.matchIn_reads, c.matchIn_reads, h, Pattern.read, Pattern.readMembers,
    Pattern.readMembers, Pattern.readMembers, Reading.both_bound_nil]

/-- A capture under a test. The head is accepted when the test and the capture are, their binders are
distinct, and neither is at the greatest depth already. It binds the names of the test before those of
the capture, and is one level deeper than the deeper of the two.

A bare extractor or expression feeds the capture. With any other test both are matched against the
subject: first the test, and, if that matches, then the capture. -/
theorem compile_pattern_both (capture test : Pattern) :
    ((∃ whole, (pattern ⟨some capture, some test⟩).compile = .ok whole) ↔
      ∃ t c, test.compile = .ok t ∧ capture.compile = .ok c ∧ t.binders.Disjoint c.binders ∧
        t.depth ≤ 31 ∧ c.depth ≤ 31) ∧
    ∀ t c whole, test.compile = .ok t → capture.compile = .ok c →
      (pattern ⟨some capture, some test⟩).compile = .ok whole →
        whole.binders = t.binders ++ c.binders ∧ whole.depth = 1 + max t.depth c.depth ∧
        ((∀ source : Source, test ≠ source.node none) → ∀ subject scope site,
          Outcome.pairs? <$> whole.matchIn subject scope site
            = Reading.both (Outcome.pairs? <$> t.matchIn subject scope (site ++ [0]))
                (Outcome.pairs? <$> c.matchIn subject scope (site ++ [1]))) ∧
        ∀ source : Source, test = source.node none → source.Feeds c whole := by
  have hpattern : pattern ⟨some capture, some test⟩ = join capture test := rfl
  rw [hpattern]
  refine ⟨?_, fun t c whole ht hc hwhole => ?_⟩
  · rw [exists_compile_join_iff]
    simp only [maxDepth, Nat.lt_succ_iff]
  · obtain rfl := compile_eq_ok.1 ht
    obtain rfl := compile_eq_ok.1 hc
    have hjoin := compile_eq_ok.1 hwhole
    refine ⟨?_, ?_, fun hne => ?_, fun source htest => ?_⟩
    · rw [whole.binders_eq, t.binders_eq, c.binders_eq, hjoin, declared_join]
    · rw [whole.depth_eq, t.depth_eq, c.depth_eq, hjoin, height_join]
    · rcases join_eq c.pattern t.pattern with ⟨source, htest, -⟩ | ⟨-, hpair⟩
      · exact absurd htest (hne source)
      · exact matchIn_of_pair (hjoin.trans hpair)
    · rw [htest, join_node] at hjoin
      exact Source.feeds hjoin

/-- A sequence of one item. -/
def oneItem : Compiled := ⟨.sequence [some (.binder "item")] none, ["item"], 2, by cbv⟩

/-- A name for the whole subject. -/
def everything : Compiled := ⟨.binder "all", ["all"], 1, by cbv⟩

/-- Accepts sequences, and produces them. -/
def sequences : Source := .extractor (.ofKind .sequence)

/-- Accepted sequences. -/
def anySequence : Compiled := ⟨sequences.node none, [], 1, by cbv⟩

theorem compile_pattern_both_oneItem :
    (∃ whole, (pattern ⟨some oneItem.pattern, some everything.pattern⟩).compile = .ok whole ∧
      whole.binders = ["all", "item"] ∧ whole.depth = 3 ∧
      Outcome.pairs? <$> whole.matchIn (.sequence [.null]) .root []
        = pure (some [("all", .sequence [.null]), ("item", .null)])) ∧
    ∃ whole, (pattern ⟨some oneItem.pattern, some anySequence.pattern⟩).compile = .ok whole ∧
      whole.binders = ["item"] ∧ whole.depth = 3 ∧
      (whole.matchIn (.sequence [.null]) .root []).result
        = .ok (.matched (Bindings.empty.bind "item" .null)) := by
  have hitem : oneItem.pattern.compile = .ok oneItem := compile_eq_ok.2 rfl
  have hall : everything.pattern.compile = .ok everything := compile_eq_ok.2 rfl
  have hany : anySequence.pattern.compile = .ok anySequence := compile_eq_ok.2 rfl
  constructor
  · obtain ⟨haccepted, hlaw⟩ := compile_pattern_both oneItem.pattern everything.pattern
    obtain ⟨whole, hwhole⟩ := haccepted.2
      ⟨everything, oneItem, hall, hitem, by simp [everything, oneItem], by decide, by decide⟩
    obtain ⟨hbinders, hdepth, hbeside, -⟩ := hlaw everything oneItem whole hall hitem hwhole
    have hne (source : Source) : everything.pattern ≠ source.node none := by
      cases source <;> simp [everything, Source.node]
    exact ⟨whole, hwhole, hbinders, hdepth, (hbeside hne _ _ _).trans (by cbv)⟩
  · obtain ⟨haccepted, hlaw⟩ := compile_pattern_both oneItem.pattern anySequence.pattern
    obtain ⟨whole, hwhole⟩ := haccepted.2
      ⟨anySequence, oneItem, hany, hitem, by simp [anySequence], by decide, by decide⟩
    obtain ⟨hbinders, hdepth, -, hfeeds⟩ := hlaw anySequence oneItem whole hany hitem hwhole
    refine ⟨whole, hwhole, hbinders, hdepth, ?_⟩
    have hproduced : (sequences.extract (.sequence [.null])).HandsOver oneItem.pattern.demanded
        (.sequence [.null]) := .value (by rintro groups ⟨⟩) rfl
    rw [(hfeeds sequences rfl).handed (.sequence [.null]) .root [] _ rfl hproduced]
    cbv

end Head

end Destructure
