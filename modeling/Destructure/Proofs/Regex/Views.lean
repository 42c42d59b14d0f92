import Destructure.Proofs.Regex.BuiltIn
import Destructure.Proofs.Regex.Stretches

set_option autoImplicit false

/-! # Two views of one match

A match is reported as a sequence of groups and as a record, which are put together separately. With a
matcher that keeps to its documentation both tell of the same captures (`Views`): the sequence has the
groups in order, starting with the match of the record and going on with its groups, each named group has
the item of its number, and the match stands in the text at the position of the record, counted in bytes
(`Matcher.extract_views`). -/

namespace Destructure.Regex

/-! ## Bytes of a text -/

theorem extract_toUTF8_append (before text after : String) :
    (before ++ text ++ after).toUTF8.extract before.utf8ByteSize
      (before.utf8ByteSize + text.utf8ByteSize) = text.toUTF8 := by
  rw [String.append_assoc, String.toUTF8, String.toByteArray_append, String.toByteArray_append]
  exact (ByteArray.extract_append_size_add (i := 0)).trans (ByteArray.extract_append_eq_left rfl)

/-- The bytes of a group come after as many bytes as stand before it. -/
theorem Span.StandsIn.extract_toUTF8 {span : Span} {s : String} (h : span.StandsIn s) :
    s.toUTF8.extract span.start (span.start + span.text.utf8ByteSize) = span.text.toUTF8 := by
  obtain ⟨before, after, rfl, hstart⟩ := h
  rw [← hstart]
  exact extract_toUTF8_append before span.text after

/-! ## Both views -/

/-- What is reported of a match in a text: the sequence and the record are put together from one whole
match, its position, and the other groups, some of which have names. -/
inductive Views (m : Matcher) (found : Found) (s : String) : Extraction → Prop
  | mk {whole : String} {others : List Value} {named : List (String × Value)} {index : Nat}
    -- every group in its turn, `null` where one took no part
    (hgroups : Value.text whole :: others
      = (List.range m.names.length).map fun i => groupValue (found.textOf i))
    -- every name in its turn, with the item of the sequence that has its number
    (hnamed : List.Forall₂ (fun group entry =>
      entry.1 = group.2 ∧ (Value.text whole :: others)[group.1]? = some entry.2) m.numbered named)
    (hbytes : s.toUTF8.extract index (index + whole.utf8ByteSize) = whole.toUTF8)
    -- in a text that is not too long, the number of the record is the position and no other
    (hindex : s.utf8ByteSize < Number.exactBound → (Number.ofNat index).toInt? = some (index : Int)) :
    Views m found s ⟨true,
      some (.mapping [("match", .text whole), ("index", .number (Number.ofNat index)),
        ("groups", .sequence others), ("named", .mapping named)]),
      some (.sequence (.text whole :: others))⟩

/-- The whole match is captured before the other groups. -/
theorem Found.Reports.captures_positional_cons {m : Matcher} {found : Found} {s : String}
    {whole : Span} (h : found.Reports m.names s) (hnonempty : m.names ≠ [])
    (hwhole : found.group 0 = some whole) :
    ∃ count, (m.captures found).positional
      = some whole.text :: (List.range count).map fun i => found.textOf (i + 1) := by
  obtain ⟨count, hcount⟩ :=
    Nat.exists_eq_succ_of_ne_zero (List.length_pos_iff.2 hnonempty).ne'
  refine ⟨count, ?_⟩
  rw [h.captures_positional, hcount, List.range_succ_eq_map, List.map_cons, List.map_map, textOf,
    hwhole]
  rfl

/-- The captures of a match are reported in two views of it. -/
theorem Found.Reports.views {m : Matcher} {found : Found} {s : String}
    (h : found.Reports m.names s) (hm : m.Documented) :
    Views m found s
      ⟨true, some (m.captures found).record, some (.sequence (m.captures found).groups)⟩ := by
  obtain ⟨whole, hwhole⟩ := h.whole
  obtain ⟨count, hpositional⟩ := h.captures_positional_cons hm.nonempty hwhole
  let group (index : Nat) : Value := groupValue (found.textOf index)
  let others : List Value := (List.range count).map fun i => group (i + 1)
  have hcons : (m.captures found).groups = .text whole.text :: others := by
    rw [Captures.groups, hpositional, List.map_cons, List.map_map]
    rfl
  have hgroups : .text whole.text :: others = (List.range m.names.length).map group := by
    rw [← hcons, Captures.groups, h.captures_positional, List.map_map]
    rfl
  have hnamed : List.Forall₂ (fun name entry => entry.1 = name.2 ∧
      (Value.text whole.text :: others)[name.1]? = some entry.2) m.numbered
      (m.numbered.map fun name => (name.2, group name.1)) := by
    rw [List.forall₂_map_right_iff, List.forall₂_same, hgroups]
    rintro ⟨index, name⟩ hname
    obtain ⟨hindex, -⟩ := List.getElem?_eq_some_iff.1 (m.mem_numbered_iff.1 hname)
    refine ⟨rfl, ?_⟩
    rw [List.getElem?_map, List.getElem?_range hindex, Option.map_some]
  have hstands : whole.StandsIn s := h.slice 0 whole hwhole
  have hviews := Views.mk hgroups hnamed hstands.extract_toUTF8
    fun hs => Number.toInt?_ofNat (hstands.le.1.trans_lt hs)
  rw [Captures.record, hcons, hpositional, h.captures_named hm.namesOnce,
    Matcher.captures_index hwhole, List.map_map]
  exact hviews

/-- A documented matcher has names for some of its groups, in the order of their numbers and each name
once. Whatever it matches is reported in two views of that match, and everything else is rejected: texts
that it does not match, and all that is no text. -/
theorem Matcher.extract_views {m : Matcher} (h : m.Documented) :
    (∀ index name, (index, name) ∈ m.numbered ↔ m.names[index]? = some (some name)) ∧
    (m.numbered.Pairwise fun a b => a.1 < b.1) ∧ (m.numbered.map (·.2)).Nodup ∧
    ∀ subject,
      (∀ s found, subject = .text s → m.find s = some found →
        Views m found s (m.engine.extract subject)) ∧
      ((∀ s, subject = .text s → m.find s = none) → m.engine.extract subject = .rejected) := by
  refine ⟨fun _ _ => m.mem_numbered_iff, m.numbered_ascending, m.numbered_map_snd ▸ h.namesOnce,
    fun subject => ⟨?_, fun hnone => ?_⟩⟩
  · rintro s found rfl hfound
    rw [Engine.extract, execute_engine, hfound]
    exact (h.reports s found hfound).views h
  · cases subject with
    | text s => rw [Engine.extract, execute_engine, hnone s rfl, Option.map_none]
    | _ => rfl

/-- Two groups with names around one without, the first of which may take no part. -/
def optionalGroup : String := "(?<_>a)?(b)(?<__>c)"

theorem extract_views_optionalGroup :
    ∃ m found, builtIn.compile optionalGroup = .ok m ∧ m.Documented ∧
      m.numbered = [(1, "_"), (3, "__")] ∧ m.find "ébcd" = some found ∧
      (List.range 4).map found.textOf = [some "bc", none, some "b", some "c"] ∧
      Views m found "ébcd" (m.engine.extract (.text "ébcd")) := by
  have hcompiles : (builtIn.compile optionalGroup).toOption.isSome := by decide +kernel
  have hnumbered : (builtIn.compile optionalGroup).toOption.map (·.numbered)
      = some [(1, "_"), (3, "__")] := by decide +kernel
  have hmatches : ((builtIn.compile optionalGroup).toOption.bind (·.find "ébcd")).map
      (fun found => (List.range 4).map found.textOf)
      = some [some "bc", none, some "b", some "c"] := by decide +kernel
  obtain ⟨m, hcompile⟩ := exists_eq_ok hcompiles
  have hdocumented : m.Documented := documented_builtIn optionalGroup m hcompile
  obtain ⟨-, -, -, hviews⟩ := Matcher.extract_views hdocumented
  rw [hcompile] at hnumbered hmatches
  obtain ⟨found, hfound, htexts⟩ := Option.map_eq_some_iff.1 hmatches
  exact ⟨m, found, hcompile, hdocumented, Option.some.inj hnumbered, hfound, htexts,
    (hviews (.text "ébcd")).1 "ébcd" found rfl hfound⟩

end Destructure.Regex
