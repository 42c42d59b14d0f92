import Destructure.Proofs.Number.Integers
import Destructure.Proofs.Value.Data
import Destructure.Proofs.Value.Equality
import Destructure.Proofs.Value.Parts

set_option autoImplicit false

/-! # From values to data trees and back

A data tree has no place for functions, domain objects, NaNs and infinities. A value without any of
them is *portable*, and these are the values that equal what comes back from their data tree
(`Value.equals_ofJson_toJson_iff`). All that such a value loses on the way is the sign of its zeros
(`Value.ofJson_toJson`), so in particular its mappings keep the order of their keys. Whatever a value has
lost, it loses nothing more on a second way (`Value.toJson_ofJson_toJson`). -/

namespace Destructure.Value

/-! ## Lists of data -/

theorem ofItems_eq_map (items : List Json) : ofItems items = items.map ofJson := by
  induction items with
  | nil => rfl
  | cons item rest ih => rw [ofItems, ih, List.map_cons]

theorem ofFields_eq_map (entries : List (String × Json)) :
    ofFields entries = entries.map fun entry => (entry.1, ofJson entry.2) := by
  induction entries with
  | nil => rfl
  | cons entry rest ih =>
    obtain ⟨key, value⟩ := entry
    rw [ofFields, ih, List.map_cons]

theorem itemsToJson_eq_map (items : List Value) : itemsToJson items = items.map toJson := by
  induction items with
  | nil => rfl
  | cons item rest ih => rw [itemsToJson, ih, List.map_cons]

theorem entriesToJson_eq_map (entries : List (String × Value)) :
    entriesToJson entries = entries.map fun entry => (entry.1, entry.2.toJson) := by
  induction entries with
  | nil => rfl
  | cons entry rest ih =>
    obtain ⟨key, value⟩ := entry
    rw [entriesToJson, ih, List.map_cons]

/-- A sequence comes back item by item. -/
theorem ofJson_toJson_sequence (items : List Value) :
    ofJson (sequence items).toJson = sequence (items.map fun item => ofJson item.toJson) := by
  rw [toJson, ofJson, itemsToJson_eq_map, ofItems_eq_map, List.map_map]
  rfl

/-- A mapping comes back entry by entry, with its keys in their order. -/
theorem ofJson_toJson_mapping (entries : List (String × Value)) :
    ofJson (mapping entries).toJson
      = mapping (entries.map fun entry => (entry.1, ofJson entry.2.toJson)) := by
  rw [toJson, ofJson, entriesToJson_eq_map, ofFields_eq_map, List.map_map]
  rfl

/-! ## Numbers -/

theorem ofJson_numberToJson {x : Number} (h : x.isFinite) :
    ofJson (numberToJson x) = number x.unsignedZero := by
  rw [numberToJson]
  cases hinteger : x.toInt? with
  | some n => rw [ofJson, Number.ofInt_of_toInt? hinteger]
  | none =>
    dsimp only
    rw [if_pos h, ofJson, Number.unsignedZero_of_toInt? hinteger]

theorem numberToJson_of_not_isFinite {x : Number} (h : ¬ x.isFinite) : numberToJson x = .null := by
  rw [numberToJson, Number.toInt?, if_neg h]
  exact if_neg h

/-- A number comes back equal to itself if it is finite. -/
theorem equals_ofJson_numberToJson_iff (x : Number) :
    (ofJson (numberToJson x)).equals (number x) ↔ x.isFinite := by
  by_cases h : x.isFinite
  · rw [ofJson_numberToJson h, equals, Number.equals_unsignedZero, Number.isNaN_of_isFinite h]
    simp [h]
  · rw [numberToJson_of_not_isFinite h, ofJson]
    simp [equals, h]

/-- Nothing more is lost on a second way. -/
theorem toJson_ofJson_numberToJson (x : Number) :
    (ofJson (numberToJson x)).toJson = numberToJson x := by
  cases hinteger : x.toInt? with
  | some n =>
    obtain ⟨hbelow, -⟩ := Number.toInt?_eq_some_iff.1 hinteger
    simp only [numberToJson, hinteger, ofJson, toJson, Number.toInt?_ofInt hbelow]
  | none =>
    by_cases hfinite : x.isFinite
    · simp only [numberToJson, hinteger, if_pos hfinite, ofJson, toJson]
    · rw [numberToJson_of_not_isFinite hfinite, ofJson, toJson]

/-! ## Values that data trees can hold -/

/-- No function and no domain object is in the value, at any depth, and no number that is not finite. -/
structure Portable (v : Value) : Prop where
  data : v.IsData
  finite : ∀ x, v.Holds (number x) → x.isFinite

theorem portable_number_iff {x : Number} : (number x).Portable ↔ x.isFinite :=
  ⟨fun h => forall_held_number.1 h.finite, fun h => ⟨.number x, forall_held_number.2 h⟩⟩

theorem portable_leaf {v : Value} (hdata : v.IsData) (hnumber : ∀ x, v ≠ number x)
    (hparts : v.parts = []) : v.Portable :=
  ⟨hdata, (forall_held_iff hnumber).2 (by simp [hparts])⟩

theorem portable_sequence_iff {items : List Value} :
    (sequence items).Portable ↔ ∀ item ∈ items, item.Portable := by
  constructor
  · intro h item hitem
    exact ⟨h.data.items item hitem, (forall_held_iff (by simp)).1 h.finite item hitem⟩
  · intro h
    exact ⟨.sequence fun item hitem => (h item hitem).data,
      (forall_held_iff (by simp)).2 fun item hitem => (h item hitem).finite⟩

theorem portable_mapping_iff {entries : List (String × Value)} :
    (mapping entries).Portable ↔ ∀ entry ∈ entries, entry.2.Portable := by
  constructor
  · intro h entry hentry
    refine ⟨h.data.entries entry hentry, (forall_held_iff (by simp)).1 h.finite entry.2 ?_⟩
    exact List.mem_map_of_mem hentry
  · intro h
    refine ⟨.mapping fun entry hentry => (h entry hentry).data, (forall_held_iff (by simp)).2 ?_⟩
    exact List.forall_mem_map.2 fun entry hentry => (h entry hentry).finite

/-- Exactly the portable values equal what comes back from their data tree. -/
theorem equals_ofJson_toJson_iff {v : Value} (h : v.DistinctKeys) :
    (ofJson v.toJson).equals v ↔ v.Portable := by
  induction h with
  | null => exact iff_of_true (by simp [toJson, ofJson, equals]) (portable_leaf .null (by simp) rfl)
  | bool b =>
    exact iff_of_true (by simp [toJson, ofJson, equals]) (portable_leaf (.bool b) (by simp) rfl)
  | text s =>
    exact iff_of_true (by simp [toJson, ofJson, equals]) (portable_leaf (.text s) (by simp) rfl)
  | number x => rw [toJson, equals_ofJson_numberToJson_iff, portable_number_iff]
  | sequence _ ih =>
    rw [ofJson_toJson_sequence, equals_map_sequence_iff fun item => ofJson item.toJson,
      portable_sequence_iff]
    exact forall₂_congr ih
  | mapping hkeys _ ih =>
    rw [ofJson_toJson_mapping, equals_map_mapping_iff (fun item => ofJson item.toJson) hkeys,
      portable_mapping_iff]
    exact forall₂_congr ih
  | callable identity name | option _ _ | marker identity mark | sealed identity object =>
    -- a text comes back, and no object is data
    exact iff_of_false (by simp [toJson, ofJson, equals]) fun h => by cases h.data

/-! ## What is lost -/

mutual

/-- The value with its numbers replaced, at any depth. -/
def mapNumbers (f : Number → Number) : Value → Value
  | .number x => .number (f x)
  | .sequence items => .sequence (mapItems f items)
  | .mapping entries => .mapping (mapEntries f entries)
  | .null => .null
  | .bool b => .bool b
  | .text s => .text s
  | .callable identity name => .callable identity name
  | .option identity content => .option identity content
  | .marker identity mark => .marker identity mark
  | .sealed identity object => .sealed identity object

def mapItems (f : Number → Number) : List Value → List Value
  | [] => []
  | item :: rest => item.mapNumbers f :: mapItems f rest

def mapEntries (f : Number → Number) : List (String × Value) → List (String × Value)
  | [] => []
  | (key, value) :: rest => (key, value.mapNumbers f) :: mapEntries f rest

end

theorem mapItems_eq_map (f : Number → Number) (items : List Value) :
    mapItems f items = items.map fun item => item.mapNumbers f := by
  induction items with
  | nil => rfl
  | cons item rest ih => rw [mapItems, ih, List.map_cons]

theorem mapEntries_eq_map (f : Number → Number) (entries : List (String × Value)) :
    mapEntries f entries = entries.map fun entry => (entry.1, entry.2.mapNumbers f) := by
  induction entries with
  | nil => rfl
  | cons entry rest ih =>
    obtain ⟨key, value⟩ := entry
    rw [mapEntries, ih, List.map_cons]

/-- A portable value comes back with the signs of its zeros lost, and as it was apart from that. -/
theorem ofJson_toJson {v : Value} (h : v.Portable) :
    ofJson v.toJson = v.mapNumbers Number.unsignedZero := by
  obtain ⟨hdata, hfinite⟩ := h
  induction hdata with
  | null | bool b | text s => rfl
  | number x => rw [toJson, ofJson_numberToJson (forall_held_number.1 hfinite), mapNumbers]
  | sequence _ ih =>
    rw [ofJson_toJson_sequence, mapNumbers, mapItems_eq_map]
    refine congrArg sequence (List.map_congr_left fun item hitem => ih item hitem ?_)
    exact (forall_held_iff (by simp)).1 hfinite item hitem
  | mapping _ ih =>
    rw [ofJson_toJson_mapping, mapNumbers, mapEntries_eq_map]
    refine congrArg mapping (List.map_congr_left fun entry hentry => ?_)
    rw [ih entry hentry ((forall_held_iff (by simp)).1 hfinite entry.2 (List.mem_map_of_mem hentry))]

/-- The data tree of what comes back is the data tree itself. -/
theorem toJson_ofJson_toJson (v : Value) : (ofJson v.toJson).toJson = v.toJson := by
  induction v using partsInduction with
  | node v ih =>
    cases v with
    | number x => exact toJson_ofJson_numberToJson x
    | sequence items =>
      rw [ofJson_toJson_sequence, toJson, toJson, itemsToJson_eq_map, itemsToJson_eq_map, List.map_map]
      exact congrArg Json.array (List.map_congr_left ih)
    | mapping entries =>
      rw [ofJson_toJson_mapping, toJson, toJson, entriesToJson_eq_map, entriesToJson_eq_map,
        List.map_map]
      refine congrArg Json.object (List.map_congr_left fun entry hentry => ?_)
      exact congrArg (entry.1, ·) (ih entry.2 (List.mem_map_of_mem hentry))
    | _ => rfl

end Destructure.Value
