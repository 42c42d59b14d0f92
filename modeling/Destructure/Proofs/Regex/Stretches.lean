import Destructure.Proofs.Regex.Captures
import Destructure.Proofs.Regex.Library
import Destructure.Proofs.Value.WellFormed

set_option autoImplicit false

/-! # Captures are stretches of the text

Every group of a match is a stretch of the text that was searched, and the match stands at a position in
it. So neither is longer than the text, and what a documented matcher finds in a well-formed value is
well-formed (`Matcher.Documented.handsOn`). -/

namespace Destructure.Regex

open Value (WellFormed)

/-- What stands in a text is not longer, and it starts in it. -/
theorem Span.StandsIn.le {span : Span} {s : String} (h : span.StandsIn s) :
    span.start ≤ s.utf8ByteSize ∧ span.text.utf8ByteSize ≤ s.utf8ByteSize := by
  obtain ⟨before, after, rfl, hstart⟩ := h
  simp only [String.utf8ByteSize_append]
  omega

/-- What is reported of a match in a text. -/
structure Captures.Within (captures : Captures) (s : String) : Prop where
  positional : ∀ group ∈ captures.positional, ∀ text, group = some text →
    text.utf8ByteSize ≤ s.utf8ByteSize
  named : ∀ entry ∈ captures.named, ∀ text, entry.2 = some text →
    text.utf8ByteSize ≤ s.utf8ByteSize
  index : captures.index ≤ s.utf8ByteSize

theorem Found.Reports.textOf_le {found : Found} {names : List (Option String)} {s text : String}
    (h : found.Reports names s) {index : Nat} (htext : found.textOf index = some text) :
    text.utf8ByteSize ≤ s.utf8ByteSize := by
  obtain ⟨span, hspan, rfl⟩ := Option.map_eq_some_iff.1 htext
  exact (h.slice index span hspan).le.2

theorem Matcher.Documented.within {m : Matcher} (hm : m.Documented) {s : String} {found : Found}
    (h : found.Reports m.names s) : (m.captures found).Within s := by
  obtain ⟨whole, hwhole⟩ := h.whole
  refine ⟨?_, ?_, ?_⟩
  · rw [h.captures_positional, List.forall_mem_map]
    exact fun _ _ text htext => h.textOf_le htext
  · rw [h.captures_named hm.namesOnce, List.forall_mem_map]
    exact fun _ _ text htext => h.textOf_le htext
  · rw [captures_index hwhole]
    exact (h.slice 0 whole hwhole).le.1

/-! ## Both views of a match -/

theorem wellFormed_groupValue {s : String} (hs : s.utf8ByteSize < memoryBound) {group : Option String}
    (h : ∀ text, group = some text → text.utf8ByteSize ≤ s.utf8ByteSize) :
    (groupValue group).WellFormed := by
  cases group with
  | none => exact .null
  | some text => exact .text ((h text rfl).trans_lt hs)

namespace Captures.Within

variable {captures : Captures} {s : String}

theorem wellFormed_groups (h : captures.Within s) (hs : s.utf8ByteSize < memoryBound) :
    ∀ group ∈ captures.groups, group.WellFormed :=
  captures.forall_groups fun group hgroup => wellFormed_groupValue hs (h.positional group hgroup)

theorem wellFormed_record (h : captures.Within s) (hs : s.utf8ByteSize < memoryBound) :
    captures.record.WellFormed := by
  have hmatch : (groupValue captures.positional.head?.join).WellFormed := by
    refine wellFormed_groupValue hs fun text htext => ?_
    exact h.positional _ (List.mem_of_mem_head? (Option.join_eq_some_iff.1 htext)) text rfl
  exact captures.record_closed .sequence .mapping hmatch
    (.number (Number.isFinite_ofNat (h.index.trans_lt hs)))
    (fun group hgroup => wellFormed_groupValue hs (h.positional group hgroup))
    (fun entry hentry => wellFormed_groupValue hs (h.named entry hentry)) (by decide)
    captures.namesOnce

end Captures.Within

/-- What a documented matcher finds in a well-formed value is well-formed. -/
theorem Matcher.Documented.handsOn {m : Matcher} (h : m.Documented) :
    (Source.regex m.engine).HandsOn WellFormed := by
  intro subject hsubject hmatched target htarget
  obtain ⟨s, captures, rfl, hexecute, hextract⟩ := Engine.extract_of_matched hmatched
  obtain ⟨found, hfound, rfl⟩ := Option.map_eq_some_iff.1 hexecute
  have hwithin : (m.captures found).Within s := h.within (h.reports s found hfound)
  have hs : s.utf8ByteSize < memoryBound := by
    cases hsubject with
    | text hs => exact hs
  rw [Source.extract, hextract] at htarget
  rcases htarget with htarget | ⟨groups, hgroups, rfl⟩
  · obtain rfl := Option.some.inj htarget
    exact hwithin.wellFormed_record hs
  · obtain rfl := Option.some.inj hgroups
    exact .sequence (hwithin.wellFormed_groups hs)

end Destructure.Regex
