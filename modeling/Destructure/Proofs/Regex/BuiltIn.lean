import Destructure.Proofs.Regex.GroupNames
import Destructure.Proofs.Regex.Library
import Destructure.Regex.BuiltIn

set_option autoImplicit false

/-! # The built-in library is documented

The built-in library keeps to the documentation of libraries (`documented_builtIn`): it cuts every group
out of the text, it lists the groups by their numbers, and the reader refuses to name two groups
alike. -/

namespace Destructure.Regex

/-! ## Groups and the text -/

namespace Span

/-- What is between two positions stands in the text after all that is before them. -/
theorem standsIn_between (s : String) (start stop : Nat) :
    (between s.toList.toArray start stop).StandsIn s := by
  refine ⟨slice s.toList.toArray 0 start,
    String.ofList ((s.toList.drop start).drop (stop - start)), ?_, rfl⟩
  simp only [between, slice, List.extract_toArray, List.extract_eq_take_drop, List.drop_zero,
    Nat.sub_zero, ← String.ofList_append, List.append_assoc, List.take_append_drop,
    String.ofList_toList]

theorem standsIn_ofSlots? {s : String} {slots : Slots} {index : Nat} {span : Span}
    (h : ofSlots? s.toList.toArray slots index = some span) : span.StandsIn s := by
  unfold ofSlots? at h
  split at h
  · obtain rfl := Option.some.inj h
    exact standsIn_between s _ _
  · cases h

end Span

/-! ## Groups and their names -/

namespace Parsed

variable {parsed : Parsed}

theorem mem_names_of_find? {index : Nat} {name : String}
    (h : (parsed.names.find? (·.1 == index)).map (·.2) = some name) :
    (index, name) ∈ parsed.names := by
  obtain ⟨entry, hfind, rfl⟩ := Option.map_eq_some_iff.1 h
  obtain rfl : entry.1 = index := by simpa using List.find?_some hfind
  exact List.mem_of_find?_eq_some hfind

theorem mem_names_of_groupNames {index : Nat} {name : String}
    (h : parsed.groupNames[index]? = some (some name)) : (index, name) ∈ parsed.names := by
  rw [groupNames, List.getElem?_map, Option.map_eq_some_iff] at h
  obtain ⟨i, hi, hname⟩ := h
  obtain ⟨hlt, rfl⟩ := List.getElem?_eq_some_iff.1 hi
  rw [List.getElem_range] at hname
  exact mem_names_of_find? hname

variable (hnames : (parsed.names.map (·.2)).Nodup)
include hnames

/-- A name is found at its group. -/
theorem find?_name {index : Nat} {name : String} (h : (index, name) ∈ parsed.names) :
    parsed.names.find? (·.2 == name) = some (index, name) := by
  have hfound : (parsed.names.find? (·.2 == name)).isSome :=
    List.find?_isSome.2 ⟨(index, name), h, beq_self_eq_true name⟩
  obtain ⟨entry, hentry⟩ := Option.isSome_iff_exists.1 hfound
  have hname : entry.2 = name := by simpa using List.find?_some hentry
  rw [hentry, List.inj_on_of_nodup_map hnames (List.mem_of_find?_eq_some hentry) h hname]

theorem nodup_groupNames : (parsed.groupNames.filterMap id).Nodup := by
  rw [groupNames, List.filterMap_map]
  refine List.nodup_range.filterMap fun i j name hi hj => ?_
  have heq := List.inj_on_of_nodup_map hnames (mem_names_of_find? hi) (mem_names_of_find? hj) rfl
  exact congrArg Prod.fst heq

/-- What is told of a match between two positions. -/
theorem reports_found (s : String) (start stop : Nat) (slots : Slots) :
    (parsed.found s.toList.toArray start stop slots).Reports parsed.groupNames s := by
  refine ⟨⟨_, rfl⟩, rfl, fun index span hspan => ?_, fun index name hname => ?_⟩
  · simp only [found] at hspan
    split at hspan
    · obtain rfl := Option.some.inj hspan
      exact Span.standsIn_between s start stop
    · exact Span.standsIn_ofSlots? hspan
  · simp only [found, find?_name hnames (mem_names_of_groupNames hname), Option.bind_some]

theorem documented_matcher (source : String) : (parsed.matcher source).Documented where
  nonempty := by simp [matcher, groupNames]
  namesOnce := nodup_groupNames hnames
  reports := by
    intro s found hfound
    obtain ⟨⟨start, stop, slots⟩, -, rfl⟩ := Option.map_eq_some_iff.1 hfound
    exact reports_found hnames s start stop slots

end Parsed

/-- The built-in library is documented. -/
theorem documented_builtIn : builtIn.Documented := by
  intro source m h
  simp only [builtIn] at h
  split at h
  · next parsed hread =>
    obtain rfl := Except.ok.inj h
    exact Parsed.documented_matcher (readExpr_namesOnce hread) source
  · cases h

end Destructure.Regex
