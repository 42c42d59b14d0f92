import Mathlib.Data.List.Perm.Subperm
import Destructure.Entries

set_option autoImplicit false

/-! # Looking up keys

`Entries.find?` looks at the first entry of a key. Where no key comes twice that is the only one, so
finding and being there are the same (`Entries.find?_eq_some_iff`). -/

namespace Destructure.Entries

variable {α β : Type}

@[simp] theorem keys_cons (entry : String × α) (entries : List (String × α)) :
    keys (entry :: entries) = entry.1 :: keys entries := rfl

@[simp] theorem length_keys (entries : List (String × α)) :
    (keys entries).length = entries.length := List.length_map ..

@[simp] theorem keys_map (f : α → β) (entries : List (String × α)) :
    keys (entries.map fun entry => (entry.1, f entry.2)) = keys entries := List.map_map

/-- A map over the values keeps what stands under which key. -/
theorem find?_map (f : α → β) (key : String) (entries : List (String × α)) :
    find? key (entries.map fun entry => (entry.1, f entry.2)) = (find? key entries).map f := by
  induction entries with
  | nil => rfl
  | cons entry rest ih =>
    rw [List.map_cons, find?, find?, ih]
    split
    · rfl
    · rfl

theorem mem_keys_of_mem {key : String} {value : α} {entries : List (String × α)}
    (h : (key, value) ∈ entries) : key ∈ keys entries := List.mem_map_of_mem h

/-- What is found under a key is among the entries. -/
theorem mem_of_find? {key : String} {value : α} {entries : List (String × α)}
    (h : find? key entries = some value) : (key, value) ∈ entries := by
  induction entries with
  | nil => cases h
  | cons entry rest ih =>
    obtain ⟨k, v⟩ := entry
    rw [find?] at h
    split at h
    · next hk =>
      obtain rfl := Option.some.inj h
      exact hk ▸ List.mem_cons_self
    · exact List.mem_cons_of_mem _ (ih h)

/-- A key has a value exactly when it is among the keys. -/
theorem isSome_find?_iff {key : String} {entries : List (String × α)} :
    (Entries.find? key entries).isSome ↔ key ∈ Entries.keys entries := by
  induction entries with
  | nil => simp [find?, keys]
  | cons entry rest ih =>
    obtain ⟨k, v⟩ := entry
    rw [find?, keys, List.map_cons, List.mem_cons]
    by_cases hk : k = key
    · simp [hk]
    · rw [if_neg hk, ih, keys]
      exact ⟨.inr, fun h => h.resolve_left (Ne.symm hk)⟩

/-- Of distinct keys each one has its own value. -/
theorem find?_eq_some_iff {key : String} {value : α} {entries : List (String × α)}
    (hnodup : (keys entries).Nodup) :
    find? key entries = some value ↔ (key, value) ∈ entries := by
  refine ⟨mem_of_find?, fun h => ?_⟩
  induction entries with
  | nil => cases h
  | cons entry rest ih =>
    obtain ⟨k, v⟩ := entry
    rw [keys_cons, List.nodup_cons] at hnodup
    rw [find?]
    rcases List.mem_cons.1 h with h | h
    · obtain ⟨rfl, rfl⟩ := Prod.mk.inj h
      exact if_pos rfl
    · have hne : k ≠ key := by
        rintro rfl
        exact hnodup.1 (mem_keys_of_mem h)
      rw [if_neg hne]
      exact ih hnodup.2 h

/-- Distinct keys have their values in every order. -/
theorem find?_perm {entries others : List (String × α)} (hnodup : (keys entries).Nodup)
    (h : entries.Perm others) (key : String) : find? key entries = find? key others := by
  have hnodup' : (keys others).Nodup := (h.map Prod.fst).nodup_iff.1 hnodup
  refine Option.ext fun value => ?_
  rw [find?_eq_some_iff hnodup, find?_eq_some_iff hnodup', h.mem_iff]

/-- A key is looked up in the first list that has it. -/
theorem find?_append (key : String) (entries others : List (String × α)) :
    find? key (entries ++ others) = (find? key entries).or (find? key others) := by
  induction entries with
  | nil => rfl
  | cons entry rest ih =>
    obtain ⟨k, v⟩ := entry
    rw [List.cons_append, find?, find?]
    split
    · rfl
    · exact ih

/-- The value under the last entry of that key. -/
def last? (key : String) (entries : List (String × α)) : Option α := find? key entries.reverse

theorem last?_concat (key : String) (entries : List (String × α)) (entry : String × α) :
    last? key (entries ++ [entry]) = if entry.1 = key then some entry.2 else last? key entries := by
  rw [last?, List.reverse_concat, find?]
  rfl

theorem mem_of_last? {key : String} {value : α} {entries : List (String × α)}
    (h : last? key entries = some value) : (key, value) ∈ entries :=
  List.mem_reverse.1 (mem_of_find? h)

/-- A key has a last entry exactly when it is among the keys. -/
theorem isSome_last?_iff {key : String} {entries : List (String × α)} :
    (last? key entries).isSome ↔ key ∈ keys entries := by
  rw [last?, isSome_find?_iff, keys, List.map_reverse, List.mem_reverse, keys]

/-- An entry whose key comes again does not count. -/
theorem last?_cons_of_mem {entry : String × α} {entries : List (String × α)}
    (h : entry.1 ∈ keys entries) (key : String) :
    last? key (entry :: entries) = last? key entries := by
  rw [last?, List.reverse_cons, find?_append]
  show (last? key entries).or (find? key [entry]) = last? key entries
  by_cases hkey : entry.1 = key
  · rw [Option.or_of_isSome (isSome_last?_iff.2 (hkey ▸ h))]
  · rw [find?, if_neg hkey, find?, Option.or_none]

/-- Distinct keys have their last values in every order. -/
theorem last?_perm {entries others : List (String × α)} (hnodup : (keys entries).Nodup)
    (h : entries.Perm others) (key : String) : last? key entries = last? key others := by
  have hreverse : (keys entries.reverse).Nodup :=
    (entries.reverse_perm.map Prod.fst).nodup_iff.2 hnodup
  exact find?_perm hreverse ((entries.reverse_perm.trans h).trans others.reverse_perm.symm) key

theorem keys_filter (keep : String → Bool) (entries : List (String × α)) :
    keys (entries.filter fun entry => keep entry.1) = (keys entries).filter keep := by
  rw [keys, keys, List.filter_map]
  rfl

theorem foldl_insert (done : List (String × α)) {pending : List (String × α)}
    (h : (keys (done ++ pending)).Nodup) :
    pending.foldl (fun done entry => insert entry.1 entry.2 done) done = done ++ pending := by
  induction pending generalizing done with
  | nil => exact (List.append_nil done).symm
  | cons entry rest ih =>
    have hnew : entry.1 ∉ keys done := by
      rw [keys, List.map_append, List.map_cons] at h
      exact fun hmem => (List.nodup_append.1 h).2.2 _ hmem _ List.mem_cons_self rfl
    rw [List.foldl_cons, insert_of_not_mem hnew, ih _ (by simpa using h), List.append_assoc]
    rfl

/-- Entries with distinct keys are inserted as they are. -/
theorem ofList_eq_self {entries : List (String × α)} (h : (keys entries).Nodup) :
    ofList entries = entries := foldl_insert [] h

/-- A list with as many entries as there are distinct keys to be found in it has those keys and no
others. -/
theorem keys_perm {entries : List (String × α)} {others : List (String × β)}
    (hnodup : (keys entries).Nodup) (hsubset : keys entries ⊆ keys others)
    (hlength : entries.length = others.length) : (keys entries).Perm (keys others) := by
  refine (List.subperm_of_subset hnodup hsubset).perm_of_length_le ?_
  rw [length_keys, length_keys]
  exact Nat.le_of_eq hlength.symm

end Destructure.Entries
