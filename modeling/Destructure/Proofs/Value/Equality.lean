import Destructure.Proofs.Entries
import Destructure.Proofs.Value.Data
import Destructure.Value.Equality

set_option autoImplicit false

/-! # Equality is symmetric

Equality of mappings looks every entry of one mapping up in the other, so it says the same in both
directions only if no key comes twice. Mappings that are built by insertion are like that; for values
in general it is said by `Value.DistinctKeys`. For them equality is symmetric, as far as it is among the
domain objects that they contain (`Value.equals_symm`). -/

namespace Destructure

/-- No mapping names a key twice, at any depth. -/
inductive Value.DistinctKeys : Value → Prop
  | null : DistinctKeys .null
  | bool (b : Bool) : DistinctKeys (.bool b)
  | number (x : Number) : DistinctKeys (.number x)
  | text (s : String) : DistinctKeys (.text s)
  | sequence {items : List Value} (h : ∀ item ∈ items, DistinctKeys item) :
    DistinctKeys (.sequence items)
  | mapping {entries : List (String × Value)} (hkeys : (Entries.keys entries).Nodup)
    (h : ∀ entry ∈ entries, DistinctKeys entry.2) : DistinctKeys (.mapping entries)
  | callable (identity : Identity) (name : String) : DistinctKeys (.callable identity name)
  | option {identity : Identity} {content : Option Value}
    (h : ∀ value, content = some value → DistinctKeys value) :
    DistinctKeys (.option identity content)
  | marker (identity : Identity) (mark : CharMarker) : DistinctKeys (.marker identity mark)
  | sealed (identity : Identity) (object : SealedObject) : DistinctKeys (.sealed identity object)

/-- The object stands somewhere in the value, at any depth, optional values included. -/
inductive Value.Contains (object : SealedObject) : Value → Prop
  | sealed (identity : Identity) : Contains object (.sealed identity object)
  | item {items : List Value} {item : Value} (hitem : item ∈ items) (h : Contains object item) :
    Contains object (.sequence items)
  | entry {entries : List (String × Value)} {entry : String × Value} (hentry : entry ∈ entries)
    (h : Contains object entry.2) : Contains object (.mapping entries)
  | content {identity : Identity} {value : Value} (h : Contains object value) :
    Contains object (.option identity (some value))

namespace Value

theorem IsData.not_contains {value : Value} (h : value.IsData) (object : SealedObject) :
    ¬ value.Contains object := by
  intro hobject
  induction hobject with
  | sealed identity => cases h
  | item hitem _ ih => exact ih (h.items _ hitem)
  | entry hentry _ ih => exact ih (h.entries _ hentry)
  | content _ _ => cases h

theorem DistinctKeys.items {items : List Value} (h : DistinctKeys (.sequence items)) :
    ∀ item ∈ items, DistinctKeys item := by
  cases h with
  | sequence h => exact h

theorem DistinctKeys.nodup_keys {entries : List (String × Value)}
    (h : DistinctKeys (.mapping entries)) : (Entries.keys entries).Nodup := by
  cases h with
  | mapping hkeys h => exact hkeys

theorem DistinctKeys.entries {entries : List (String × Value)} (h : DistinctKeys (.mapping entries)) :
    ∀ entry ∈ entries, DistinctKeys entry.2 := by
  cases h with
  | mapping hkeys h => exact h

theorem DistinctKeys.content {identity : Identity} {content : Option Value}
    (h : DistinctKeys (.option identity content)) :
    ∀ value, content = some value → DistinctKeys value := by
  cases h with
  | option h => exact h

/-! ## Items and entries -/

/-- Items are equal one by one. -/
theorem equalItems_iff {as bs : List Value} :
    equalItems as bs ↔ List.Forall₂ (fun a b => a.equals b) as bs := by
  induction as generalizing bs with
  | nil => cases bs <;> simp [equalItems]
  | cons a as ih => cases bs <;> simp [equalItems, ih]

/-- Every entry has an equal one under its key. -/
theorem equalEntries_iff {entries others : List (String × Value)} :
    equalEntries entries others ↔
      ∀ entry ∈ entries, ∃ b, Entries.find? entry.1 others = some b ∧ entry.2.equals b := by
  induction entries with
  | nil => simp [equalEntries]
  | cons entry rest ih =>
    obtain ⟨key, a⟩ := entry
    rw [equalEntries, Bool.and_eq_true, ih, List.forall_mem_cons]
    cases Entries.find? key others <;> simp

/-- Mappings are equal when they have equally many entries and each entry of the first has an equal
one in the second. -/
theorem equals_mapping_iff {entries others : List (String × Value)} :
    (mapping entries).equals (mapping others) ↔ entries.length = others.length ∧
      ∀ entry ∈ entries, ∃ b, Entries.find? entry.1 others = some b ∧ entry.2.equals b := by
  rw [equals, Bool.and_eq_true, beq_iff_eq, equalEntries_iff]

theorem equals_sequence_iff {items others : List Value} :
    (sequence items).equals (sequence others) ↔
      List.Forall₂ (fun a b => a.equals b) items others := by
  rw [equals, equalItems_iff]

/-! ## Values in other values' places -/

theorem equals_map_sequence_iff (f : Value → Value) {items : List Value} :
    (sequence (items.map f)).equals (sequence items) ↔ ∀ item ∈ items, (f item).equals item := by
  rw [equals_sequence_iff, List.forall₂_map_left_iff, List.forall₂_same]

theorem equals_map_mapping_iff (f : Value → Value) {entries : List (String × Value)}
    (hkeys : (Entries.keys entries).Nodup) :
    (mapping (entries.map fun entry => (entry.1, f entry.2))).equals (mapping entries) ↔
      ∀ entry ∈ entries, (f entry.2).equals entry.2 := by
  rw [equals_mapping_iff, and_iff_right (List.length_map _), List.forall_mem_map]
  refine forall₂_congr fun entry hentry => ?_
  rw [(Entries.find?_eq_some_iff hkeys).2 hentry]
  simp

/-- A mapping of distinct keys equals itself when all its values do. -/
theorem equals_mapping_self_iff {entries : List (String × Value)}
    (hkeys : (Entries.keys entries).Nodup) :
    (mapping entries).equals (mapping entries) ↔ ∀ entry ∈ entries, entry.2.equals entry.2 := by
  simpa using equals_map_mapping_iff id hkeys

/-! ## Symmetry -/

theorem equals_sequence_symm {items others : List Value}
    (hsymm : ∀ item ∈ items, ∀ b ∈ others, item.equals b → b.equals item)
    (h : (sequence items).equals (sequence others)) : (sequence others).equals (sequence items) := by
  rw [equals_sequence_iff] at h ⊢
  induction h with
  | nil => exact .nil
  | cons hab _ ih =>
    rw [List.forall_mem_cons] at hsymm
    refine .cons (hsymm.1 _ List.mem_cons_self hab) (ih fun item hitem b hb => ?_)
    exact hsymm.2 item hitem b (List.mem_cons_of_mem _ hb)

/-- Equal mappings have the same keys, if the first names none twice. -/
theorem keys_perm_of_equals {entries others : List (String × Value)}
    (hnodup : (Entries.keys entries).Nodup) (h : (mapping entries).equals (mapping others)) :
    (Entries.keys entries).Perm (Entries.keys others) := by
  obtain ⟨hlength, hentries⟩ := equals_mapping_iff.1 h
  refine Entries.keys_perm hnodup (fun key hkey => ?_) hlength
  obtain ⟨entry, hentry, rfl⟩ := List.mem_map.1 hkey
  obtain ⟨b, hb, -⟩ := hentries entry hentry
  exact Entries.mem_keys_of_mem (Entries.mem_of_find? hb)

theorem equals_mapping_symm {entries others : List (String × Value)}
    (hnodup : (Entries.keys entries).Nodup)
    (hsymm : ∀ entry ∈ entries, ∀ other ∈ others, entry.2.equals other.2 → other.2.equals entry.2)
    (h : (mapping entries).equals (mapping others)) :
    (mapping others).equals (mapping entries) := by
  obtain ⟨hlength, hentries⟩ := equals_mapping_iff.1 h
  have hperm := keys_perm_of_equals hnodup h
  refine equals_mapping_iff.2 ⟨hlength.symm, fun entry hentry => ?_⟩
  obtain ⟨key, v⟩ := entry
  obtain ⟨⟨_, u⟩, hu, rfl⟩ := List.mem_map.1 (hperm.mem_iff.2 (Entries.mem_keys_of_mem hentry))
  obtain ⟨b, hb, heq⟩ := hentries _ hu
  -- the other mapping has the same keys, so its entry of this key is the one that is found
  obtain rfl : v = b := by
    have hv := (Entries.find?_eq_some_iff (hperm.nodup_iff.1 hnodup)).2 hentry
    exact Option.some.inj (hv.symm.trans hb)
  exact ⟨u, (Entries.find?_eq_some_iff hnodup).2 hu, hsymm _ hu _ hentry heq⟩

/-- Equality is symmetric for values that name no key twice, if their domain objects are equal in both
directions. -/
theorem equals_symm {a b : Value} (ha : a.DistinctKeys)
    (hsymm : ∀ x y, a.Contains x → b.Contains y → x.alike y → y.alike x) (h : a.equals b) :
    b.equals a := by
  induction ha generalizing b with
  | null => cases b <;> simp_all [equals]
  | bool x => cases b <;> simp_all [equals]
  | number x =>
    cases b with
    | number y =>
      rw [equals] at h ⊢
      rwa [Number.equals_comm]
    | _ => simp [equals] at h
  | text s => cases b <;> simp_all [equals]
  | sequence hitems ih =>
    cases b with
    | sequence others =>
      refine equals_sequence_symm (fun item hitem b hb => ih item hitem fun x y hx hy => ?_) h
      exact hsymm x y (.item hitem hx) (.item hb hy)
    | _ => simp [equals] at h
  | mapping hkeys hentries ih =>
    cases b with
    | mapping others =>
      refine equals_mapping_symm hkeys (fun e he other hother => ih e he fun x y hx hy => ?_) h
      exact hsymm x y (.entry he hx) (.entry hother hy)
    | _ => simp [equals] at h
  | callable identity name => cases b <;> simp_all [equals]
  | @option identity content hcontent ih =>
    cases b with
    | option identity' content' =>
      rw [equals, Bool.or_eq_true] at h ⊢
      rcases h with h | h
      · exact .inl (by simp_all)
      · refine .inr ?_
        cases content with
        | none =>
          cases content' with
          | none => exact h
          | some b => simp [equalContents] at h
        | some a =>
          cases content' with
          | none => simp [equalContents] at h
          | some b =>
            rw [equalContents] at h ⊢
            exact ih a rfl (fun x y hx hy => hsymm x y (.content hx) (.content hy)) h
    | _ => simp [equals] at h
  | marker identity mark => cases b <;> simp_all [equals]
  | sealed identity object =>
    cases b with
    | sealed identity' object' =>
      rw [equals, Bool.or_eq_true] at h ⊢
      rcases h with h | h
      · exact .inl (by rwa [Bool.beq_comm])
      · exact .inr (hsymm _ _ (.sealed identity) (.sealed identity') h)
    | _ => simp [equals] at h

/-! ## Values that equal themselves -/

/-- The value equals itself, and no mapping in it names a key twice. -/
structure Regular (s : Value) : Prop where
  distinct : s.DistinctKeys
  self : s.equals s

theorem Regular.item {items : List Value} (h : (sequence items).Regular) {item : Value}
    (hitem : item ∈ items) : item.Regular :=
  ⟨h.distinct.items item hitem, List.forall₂_same.1 (equals_sequence_iff.1 h.self) item hitem⟩

theorem Regular.entry {entries : List (String × Value)} (h : (mapping entries).Regular)
    {key : String} {value : Value} (hentry : (key, value) ∈ entries) : value.Regular := by
  obtain ⟨b, hb, hself⟩ := (equals_mapping_iff.1 h.self).2 _ hentry
  have hvalue := (Entries.find?_eq_some_iff h.distinct.nodup_keys).2 hentry
  obtain rfl : value = b := Option.some.inj (hvalue.symm.trans hb)
  exact ⟨h.distinct.entries _ hentry, hself⟩

theorem regular_sequence {items : List Value} (h : ∀ item ∈ items, item.Regular) :
    (sequence items).Regular where
  distinct := .sequence fun item hitem => (h item hitem).distinct
  self := equals_sequence_iff.2 (List.forall₂_same.2 fun item hitem => (h item hitem).self)

theorem regular_mapping {entries : List (String × Value)} (hkeys : (Entries.keys entries).Nodup)
    (h : ∀ entry ∈ entries, entry.2.Regular) : (mapping entries).Regular where
  distinct := .mapping hkeys fun entry hentry => (h entry hentry).distinct
  self := (equals_mapping_self_iff hkeys).2 fun entry hentry => (h entry hentry).self

end Value

end Destructure
