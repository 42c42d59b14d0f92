import Destructure.Proofs.Entries
import Destructure.Regex.Library

set_option autoImplicit false

/-! # What libraries promise

How a library finds a match is its own affair. What its documentation promises about the answer is
written down here: there is always a group 0, the groups are told in the order of their numbers, each one
is a slice of the text, and no name stands for two groups (`Library.Documented`). The captures that are
put together from such an answer have every group in its place (`Found.Reports.captures_positional`) and
every named group under its name (`Found.Reports.captures_named`). -/

namespace Destructure.Regex

/-! ## Documented libraries -/

/-- The group stands in the text where it says. -/
def Span.StandsIn (span : Span) (s : String) : Prop :=
  ∃ before after, s = before ++ span.text ++ after ∧ before.utf8ByteSize = span.start

/-- What is told of a match in a text is documented; `names` has the name of every group of the
expression, if it has one. -/
structure Found.Reports (found : Found) (names : List (Option String)) (s : String) : Prop where
  /-- The whole match took part. -/
  whole : ∃ span, found.group 0 = some span
  inOrder : found.groups = (List.range names.length).map found.group
  slice : ∀ index span, found.group index = some span → span.StandsIn s
  byName : ∀ index name, names[index]? = some (some name) → found.named name = found.group index

/-- The matcher of an expression keeps to the documentation. -/
structure Matcher.Documented (m : Matcher) : Prop where
  /-- There is a group 0. -/
  nonempty : m.names ≠ []
  /-- No name is given twice. -/
  namesOnce : (m.names.filterMap id).Nodup
  reports : ∀ s found, m.find s = some found → found.Reports m.names s

/-- Every matcher of the library keeps to the documentation. -/
def Library.Documented (library : Library) : Prop :=
  ∀ source m, library.compile source = .ok m → m.Documented

/-- Every match reports a group 0, the whole match. -/
def Engine.ReportsWhole (engine : Engine) : Prop :=
  ∀ text captures, engine.execute text = some captures → captures.positional ≠ []

/-! ## Groups with names -/

namespace Matcher

variable (m : Matcher)

/-- The groups with names, by their numbers. -/
def numbered : List (Nat × String) :=
  m.names.zipIdx.filterMap fun (name?, index) => name?.map (index, ·)

theorem mem_numbered_iff {index : Nat} {name : String} :
    (index, name) ∈ m.numbered ↔ m.names[index]? = some (some name) := by
  rw [numbered, List.mem_filterMap]
  constructor
  · rintro ⟨⟨name?, i⟩, hmem, hname⟩
    obtain ⟨name, rfl, hentry⟩ := Option.map_eq_some_iff.1 hname
    cases hentry
    exact List.mem_zipIdx_iff_getElem?.1 hmem
  · exact fun h => ⟨(some name, index), List.mem_zipIdx_iff_getElem?.2 h, rfl⟩

/-- The named groups stand in the order of their numbers. -/
theorem numbered_ascending : m.numbered.Pairwise fun a b => a.1 < b.1 := by
  have hnumbers : m.names.zipIdx.Pairwise fun a b => a.2 < b.2 := by
    rw [← List.pairwise_map, List.zipIdx_map_snd]
    exact List.pairwise_lt_range'
  rw [numbered, List.pairwise_filterMap]
  refine hnumbers.imp fun hlt a ha b hb => ?_
  obtain ⟨-, -, rfl⟩ := Option.map_eq_some_iff.1 ha
  obtain ⟨-, -, rfl⟩ := Option.map_eq_some_iff.1 hb
  exact hlt

/-- The names are all those of the expression. -/
theorem numbered_map_snd : m.numbered.map (·.2) = m.names.filterMap id := by
  have hfst := congrArg (List.filterMap id) (List.zipIdx_map_fst 0 m.names)
  rw [List.filterMap_map] at hfst
  rw [numbered, List.map_filterMap, ← hfst]
  exact List.filterMap_congr fun ⟨name?, _⟩ _ => by cases name? <;> rfl

end Matcher

/-! ## Captures of a documented matcher -/

theorem Matcher.execute_engine (m : Matcher) (s : String) :
    m.engine.execute s = (m.find s).map m.captures := rfl

/-- The text of a group, if it took part. -/
def Found.textOf (found : Found) (index : Nat) : Option String := (found.group index).map (·.text)

/-- The captures have the position of the whole match. -/
theorem Matcher.captures_index {m : Matcher} {found : Found} {whole : Span}
    (h : found.group 0 = some whole) : (m.captures found).index = whole.start := by
  rw [captures, h]
  rfl

namespace Found.Reports

variable {m : Matcher} {found : Found} {s : String}

/-- The groups are captured in the order of their numbers. -/
theorem captures_positional (h : found.Reports m.names s) :
    (m.captures found).positional = (List.range m.names.length).map found.textOf := by
  rw [Matcher.captures, h.inOrder, List.map_map]
  rfl

/-- Every named group is captured as the group of its number. -/
theorem captures_named (h : found.Reports m.names s) (hnames : (m.names.filterMap id).Nodup) :
    (m.captures found).named = m.numbered.map fun group => (group.2, found.textOf group.1) := by
  have hgroups : (m.names.filterMap id).map (fun name => (name, (found.named name).map (·.text)))
      = m.numbered.map fun group => (group.2, found.textOf group.1) := by
    rw [← m.numbered_map_snd, List.map_map]
    refine List.map_congr_left fun group hgroup => ?_
    exact congrArg (fun span => (group.2, Option.map Span.text span))
      (h.byName group.1 group.2 (m.mem_numbered_iff.1 hgroup))
  show Entries.ofList _ = _
  rw [hgroups]
  refine Entries.ofList_eq_self ?_
  rw [Entries.keys, List.map_map]
  exact m.numbered_map_snd ▸ hnames

end Found.Reports

/-- The engine of a documented matcher reports the whole match first. -/
theorem Matcher.Documented.reportsWhole {m : Matcher} (h : m.Documented) :
    m.engine.ReportsWhole := by
  intro text captures hexecute
  obtain ⟨found, hfound, rfl⟩ := Option.map_eq_some_iff.1 hexecute
  rw [(h.reports text found hfound).captures_positional]
  simpa using h.nonempty

end Destructure.Regex
