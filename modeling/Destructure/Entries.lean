set_option autoImplicit false

/-! # Ordered entries

Objects, mappings and bindings are lists of entries under text keys, in the order in which the keys
first came. `Entries.insert` replaces a key's value in place and puts a new key at the end, so a list
built by insertion names no key twice (`Entries.nodup_keys_insert`). -/

namespace Destructure.Entries

variable {α β : Type}

/-- The keys, in order. -/
def keys (entries : List (String × α)) : List String := entries.map (·.1)

/-- The value under the first entry of that key. -/
def find? (key : String) : List (String × α) → Option α
  | [] => none
  | (k, v) :: rest => if k = key then some v else find? key rest

/-- Set `key` to `value`: in place when the key is there, at the end otherwise. -/
def insert (key : String) (value : α) : List (String × α) → List (String × α)
  | [] => [(key, value)]
  | (k, v) :: rest => if k = key then (key, value) :: rest else (k, v) :: insert key value rest

/-- The entries inserted one after the other: a repeated key keeps its first place and its last
value. -/
def ofList (entries : List (String × α)) : List (String × α) :=
  entries.foldl (fun done entry => insert entry.1 entry.2 done) []

theorem keys_insert_of_mem {key : String} {value : α} {entries : List (String × α)}
    (h : key ∈ keys entries) : keys (insert key value entries) = keys entries := by
  induction entries with
  | nil => simp [keys] at h
  | cons entry rest ih =>
    obtain ⟨k, v⟩ := entry
    by_cases hk : k = key
    · simp [insert, keys, hk]
    · have hrest : key ∈ keys rest := by simpa [keys, Ne.symm hk] using h
      simpa [insert, keys, hk] using ih hrest

theorem insert_of_not_mem {key : String} {value : α} {entries : List (String × α)}
    (h : key ∉ keys entries) : insert key value entries = entries ++ [(key, value)] := by
  induction entries with
  | nil => rfl
  | cons entry rest ih =>
    obtain ⟨k, v⟩ := entry
    have hk : k ≠ key := fun he => h (by simp [keys, he])
    have hrest : key ∉ keys rest := fun hm => h (by simpa [keys] using Or.inr hm)
    simp [insert, hk, ih hrest]

/-- Insertion keeps keys distinct. -/
theorem nodup_keys_insert {key : String} {value : α} {entries : List (String × α)}
    (h : (keys entries).Nodup) : (keys (insert key value entries)).Nodup := by
  by_cases hm : key ∈ keys entries
  · rw [keys_insert_of_mem hm]; exact h
  · rw [insert_of_not_mem hm]
    simp only [keys, List.map_append, List.map_cons, List.map_nil]
    refine List.nodup_append.2 ⟨h, by simp, ?_⟩
    intro k hk k' hk' he
    simp only [List.mem_singleton] at hk'
    exact hm (by rw [← hk', ← he]; exact hk)

/-- The new value is found under its key, and the other keys keep theirs. -/
theorem find?_insert (key other : String) (value : α) (entries : List (String × α)) :
    find? other (insert key value entries)
      = if key = other then some value else find? other entries := by
  induction entries with
  | nil => simp [insert, find?]
  | cons entry rest ih =>
    obtain ⟨k, v⟩ := entry
    by_cases hk : k = key
    · subst hk
      by_cases ho : k = other <;> simp [insert, find?, ho]
    · by_cases ho : k = other
      · subst ho
        simp [insert, find?, hk, Ne.symm hk]
      · simp [insert, find?, hk, ho, ih]

/-- What is kept is found as before. -/
theorem find?_filter {keep : String → Bool} {key : String} (h : keep key)
    (entries : List (String × α)) :
    find? key (entries.filter fun entry => keep entry.1) = find? key entries := by
  induction entries with
  | nil => rfl
  | cons entry rest ih =>
    obtain ⟨k, v⟩ := entry
    by_cases hk : k = key
    · subst hk
      have hkeep : ((k, v) :: rest).filter (fun entry => keep entry.1)
          = (k, v) :: rest.filter fun entry => keep entry.1 := List.filter_cons_of_pos h
      rw [hkeep, find?, find?, if_pos rfl, if_pos rfl]
    · rw [List.filter_cons, find?, if_neg hk]
      split
      · rw [find?, if_neg hk, ih]
      · exact ih

theorem nodup_keys_foldl (pending done : List (String × α)) (h : (keys done).Nodup) :
    (keys (pending.foldl (fun done entry => insert entry.1 entry.2 done) done)).Nodup := by
  induction pending generalizing done with
  | nil => exact h
  | cons entry rest ih => exact ih _ (nodup_keys_insert h)

/-- A list built by insertion names no key twice. -/
theorem nodup_keys_ofList (entries : List (String × α)) : (keys (ofList entries)).Nodup :=
  nodup_keys_foldl entries [] List.nodup_nil

end Destructure.Entries
