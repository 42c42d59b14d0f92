import Destructure.Config.Record
import Destructure.Proofs.Entries
import Destructure.Proofs.Run

set_option autoImplicit false

/-! # Records by key

The entries of a record are taken in one after the other. Where no key comes twice, their order does
not matter: every field holds what stands under its name, and what stands under other keys is not
looked at (`Record.ofEntries_of_supplied`). -/

namespace Destructure.Record

variable {F : Type} {C : F → Type}

/-! ## What stands under a name -/

/-- A field has that content with that part under its name, or with none. -/
def FieldSpec.Admits (field : FieldSpec F) : Option (Part C) → field.Content C → Prop
  | some part, content => field.read part = .ok content
  | none, content => field.absent? C = some content

/-- Every field has its content with what is found under its name. -/
def Supplied (found : String → Option (Part C)) :
    (schema : List (FieldSpec F)) → Contents C schema → Prop
  | [], _ => True
  | field :: rest, contents =>
    field.Admits (found field.name) contents.1 ∧ Supplied found rest contents.2

/-- The contents of those fields that are among the names. -/
def slotsAmong (names : List String) : (schema : List (FieldSpec F)) → Contents C schema →
    Slots C schema
  | [], _ => ()
  | field :: rest, contents =>
    (if field.name ∈ names then some contents.1 else none, slotsAmong names rest contents.2)

theorem slotsAmong_nil (schema : List (FieldSpec F)) (contents : Contents C schema) :
    slotsAmong [] schema contents = noSlots C schema := by
  induction schema with
  | nil => rfl
  | cons field rest ih => rw [slotsAmong, ih, if_neg List.not_mem_nil, noSlots]

/-- A name that is not that of a field makes no difference. -/
theorem slotsAmong_append {names : List String} {key : String} {schema : List (FieldSpec F)}
    (h : key ∉ schema.map (·.name)) (contents : Contents C schema) :
    slotsAmong (names ++ [key]) schema contents = slotsAmong names schema contents := by
  induction schema with
  | nil => rfl
  | cons field rest ih =>
    rw [List.map_cons, List.mem_cons, not_or] at h
    have hmem : field.name ∈ names ++ [key] ↔ field.name ∈ names := by
      rw [List.mem_append, List.mem_singleton, or_iff_left (Ne.symm h.1)]
    rw [slotsAmong, slotsAmong, ih h.2]
    simp only [hmem]

/-! ## Taking entries in -/

variable {found : String → Option (Part C)} {schema : List (FieldSpec F)}
  {contents : Contents C schema}

/-- An entry under a new key gives its content to the field of that name, if there is one. -/
theorem visit_slotsAmong {names : List String} {key : String} {part : Part C} (hnew : key ∉ names)
    (hkey : found key = some part) (hnames : (schema.map (·.name)).Nodup)
    (h : Supplied found schema contents) :
    visit schema (slotsAmong names schema contents) key part
      = .ok (slotsAmong (names ++ [key]) schema contents) := by
  induction schema with
  | nil => rfl
  | cons field rest ih =>
    obtain ⟨content, contents⟩ := contents
    obtain ⟨hadmits, h⟩ := h
    rw [List.map_cons, List.nodup_cons] at hnames
    simp only [slotsAmong, visit]
    by_cases hname : field.name = key
    · have hread : field.read part = .ok content := by
        rw [hname, hkey] at hadmits
        exact hadmits
      have hmem : field.name ∈ names ++ [key] := by simp [hname]
      rw [if_pos hname, if_neg (hname ▸ hnew), if_pos hmem,
        slotsAmong_append (hname ▸ hnames.1)]
      simp only [hread]
      rfl
    · have hmem : field.name ∈ names ++ [key] ↔ field.name ∈ names := by simp [hname]
      rw [if_neg hname, ih hnames.2 h]
      simp only [hmem]
      rfl

/-- Entries under distinct keys give their contents to the fields of their names. -/
theorem visitAll_slotsAmong (hnames : (schema.map (·.name)).Nodup)
    {pending : List (String × Part C)} {names : List String}
    (hkeys : (names ++ Entries.keys pending).Nodup)
    (hfound : ∀ entry ∈ pending, found entry.1 = some entry.2)
    (h : Supplied found schema contents) :
    visitAll schema (slotsAmong names schema contents) pending
      = .ok (slotsAmong (names ++ Entries.keys pending) schema contents) := by
  induction pending generalizing names with
  | nil =>
    rw [Entries.keys, List.map_nil, List.append_nil]
    rfl
  | cons entry rest ih =>
    obtain ⟨key, part⟩ := entry
    rw [List.forall_mem_cons] at hfound
    rw [Entries.keys_cons] at hkeys
    have hnew : key ∉ names := fun hmem =>
      (List.nodup_append.1 hkeys).2.2 key hmem key List.mem_cons_self rfl
    rw [List.append_cons] at hkeys
    rw [Entries.keys_cons, List.append_cons names, visitAll, visit_slotsAmong hnew hfound.1 hnames h]
    exact ih hkeys hfound.2

/-- When all entries have been taken in, the fields without one have their contents all the same. -/
theorem complete_slotsAmong {names : List String} (hfound : ∀ name, (found name).isSome ↔ name ∈ names)
    (h : Supplied found schema contents) :
    complete schema (slotsAmong names schema contents) = .ok contents := by
  induction schema with
  | nil => rfl
  | cons field rest ih =>
    obtain ⟨content, contents⟩ := contents
    obtain ⟨hadmits, h⟩ := h
    have hmem := hfound field.name
    simp only [slotsAmong]
    cases hpart : found field.name with
    | some part =>
      rw [hpart] at hmem
      rw [if_pos (hmem.1 rfl), complete, ih h]
      rfl
    | none =>
      rw [hpart] at hadmits hmem
      have habsent : field.absent? C = some content := hadmits
      rw [if_neg (fun hname => Bool.false_ne_true (hmem.2 hname))]
      simp only [complete, habsent, ih h]
      rfl

/-- A record whose entries have distinct keys has the contents that stand under the names of its
fields. -/
theorem ofEntries_of_supplied {parts : List (String × Part C)} (hkeys : (Entries.keys parts).Nodup)
    (hnames : (schema.map (·.name)).Nodup)
    (h : Supplied (Entries.find? · parts) schema contents) : ofEntries schema parts = .ok contents := by
  have hfound : ∀ entry ∈ parts, Entries.find? entry.1 parts = some entry.2 := fun entry hentry =>
    (Entries.find?_eq_some_iff hkeys).2 hentry
  have hvisited := visitAll_slotsAmong hnames (List.nil_append (Entries.keys parts) ▸ hkeys) hfound h
  rw [slotsAmong_nil, List.nil_append] at hvisited
  rw [ofEntries, hvisited]
  exact complete_slotsAmong (fun _ => Entries.isSome_find?_iff) h

/-! ## Entries that are trees -/

/-- An object with distinct keys is read by what stands under the names of the fields. -/
theorem ofEntries_ofJson {decode : (form : F) → Json → Except DecodeError (C form)}
    {entries : List (String × Json)} (hkeys : (Entries.keys entries).Nodup)
    (hnames : (schema.map (·.name)).Nodup)
    (h : Supplied (fun name => (Entries.find? name entries).map (Part.ofJson decode)) schema contents) :
    ofEntries schema (entries.map fun entry => (entry.1, Part.ofJson decode entry.2))
      = .ok contents := by
  refine ofEntries_of_supplied ?_ hnames ?_
  · rw [Entries.keys_map]
    exact hkeys
  · simp only [Entries.find?_map]
    exact h

variable {α : Type} {layer : Layer} {table : List (String × α)} {entries : List (String × Json)}
  {a : α}

theorem tagAmong_of_not_mem (h : "type" ∉ Entries.keys entries) :
    tagAmong layer table (some a) entries = .ok a := by
  induction entries with
  | nil => rfl
  | cons entry rest ih =>
    rw [Entries.keys_cons, List.mem_cons, not_or] at h
    rw [tagAmong, if_neg (Ne.symm h.1), ih h.2]

/-- The tag of a form whose keys are distinct is the one that its type names. -/
theorem tagAmong_of_find? {word : String} (hkeys : (Entries.keys entries).Nodup)
    (htype : Entries.find? "type" entries = some (.text word))
    (hword : Entries.find? word table = some a) : tagAmong layer table none entries = .ok a := by
  induction entries with
  | nil => cases htype
  | cons entry rest ih =>
    obtain ⟨key, tree⟩ := entry
    rw [Entries.keys_cons, List.nodup_cons] at hkeys
    rw [Entries.find?] at htype
    rw [tagAmong]
    split at htype
    · next hkey =>
      obtain rfl := Option.some.inj htype
      have htag : tagOf layer table (.text word) = .ok a := by
        rw [tagOf, wordOf, hword]
      rw [if_pos hkey]
      simp only [htag]
      exact tagAmong_of_not_mem (hkey ▸ hkeys.1)
    · next hkey =>
      rw [if_neg hkey]
      exact ih hkeys.2 htype

end Destructure.Record
