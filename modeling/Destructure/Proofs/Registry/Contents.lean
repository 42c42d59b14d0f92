import Mathlib.Data.List.Induction
import Destructure.Proofs.Entries
import Destructure.Proofs.Pattern.Analysis
import Destructure.Registry.Basic

set_option autoImplicit false

/-! # What a registry holds

A table may go through its entries in any order, so what counts of it is what is found under each name.
A registry holds registrations when every table has under every name what was registered last
(`Registry.Holds`). The names that it lists are then exactly the registered ones, in strictly ascending
order (`Registry.Holds.mem_names_iff`, `Table.names_ascending`). -/

namespace Destructure

/-! ## Tables -/

namespace Table

variable {α : Type}

theorem mem_keys_iff {table : Table α} {name : String} :
    name ∈ table.keys ↔ (table.find? name).isSome := Entries.isSome_find?_iff.symm

/-- The entries are sorted by their names, so the names are sorted. -/
theorem names_eq (table : Table α) : table.names = sortNames table.keys :=
  List.map_mergeSort fun _ _ _ _ => rfl

theorem mem_names_iff {table : Table α} {name : String} :
    name ∈ table.names ↔ (table.find? name).isSome := by
  rw [names_eq, (sortNames_perm _).mem_iff, mem_keys_iff]

/-- No name is listed twice. -/
theorem names_ascending (table : Table α) : table.names.Pairwise (· < ·) := by
  have hnodup : (sortNames table.keys).Nodup := (sortNames_perm _).nodup_iff.2 table.nodup
  rw [names_eq]
  exact (sortNames_sorted table.keys).imp₂ (fun _ _ => lt_of_le_of_ne) hnodup

/-- Tables with the same under every name have the same names. -/
theorem keys_perm {table other : Table α} (h : ∀ name, table.find? name = other.find? name) :
    table.keys.Perm other.keys := by
  refine (List.perm_ext_iff_of_nodup table.nodup other.nodup).2 fun name => ?_
  show name ∈ table.keys ↔ name ∈ other.keys
  rw [mem_keys_iff, mem_keys_iff, h]

end Table

/-! ## Registrations by table -/

/-- What stands under the names of a table. -/
def TableKind.Content : TableKind → Type
  | .extractor => ExtractorFactory
  | .predicate => Predicate
  | .guard => Guard
  | .constant => Value

/-- What a registration puts into a table. -/
def Registration.entry? : (kind : TableKind) → Registration → Option (String × kind.Content)
  | .extractor, .extractor typeUrl factory => some (typeUrl, factory)
  | .predicate, .predicate name test => some (name, test)
  | .guard, .guard name condition => some (name, condition)
  | .constant, .constant name value => some (name, value)
  | _, _ => none

/-- The registration that puts an entry into a table. -/
def Registration.of : (kind : TableKind) → String → kind.Content → Registration
  | .extractor => .extractor
  | .predicate => .predicate
  | .guard => .guard
  | .constant => .constant

theorem Registration.entry?_eq_some_iff {kind : TableKind} {registration : Registration}
    {name : String} {content : kind.Content} :
    registration.entry? kind = some (name, content) ↔ registration = .of kind name content := by
  constructor
  · intro h
    cases kind <;> cases registration <;> cases h <;> rfl
  · rintro rfl
    cases kind <;> rfl

/-- What registrations put into a table, one after the other. -/
def entriesOf (kind : TableKind) (registrations : List Registration) :
    List (String × kind.Content) := registrations.filterMap (Registration.entry? kind)

theorem mem_entriesOf_iff {kind : TableKind} {registrations : List Registration} {name : String}
    {content : kind.Content} :
    (name, content) ∈ entriesOf kind registrations ↔ .of kind name content ∈ registrations := by
  rw [entriesOf, List.mem_filterMap]
  simp only [Registration.entry?_eq_some_iff, exists_eq_right]

namespace Registry

/-- The table of a kind. -/
def table (r : Registry) : (kind : TableKind) → Table kind.Content
  | .extractor => r.extractors
  | .predicate => r.predicates
  | .guard => r.guards
  | .constant => r.constants

/-- Under every name of every table there is what was registered last, and nothing under a name that was
not registered. The order in which the tables go through their entries may be any. -/
def Holds (r : Registry) (registrations : List Registration) : Prop :=
  ∀ kind name, (r.table kind).find? name = Entries.last? name (entriesOf kind registrations)

/-- Every name leads to the same in both registries. -/
def Agrees (r r' : Registry) : Prop :=
  ∀ kind name, (r.table kind).find? name = (r'.table kind).find? name

variable {r r' : Registry} {registrations others : List Registration}

/-- A registration changes its own table. -/
theorem table_register (r : Registry) (registration : Registration) (kind : TableKind) :
    (r.register registration).table kind
      = match registration.entry? kind with
        | some (name, content) => (r.table kind).insert name content
        | none => r.table kind := by
  cases kind <;> cases registration <;> rfl

/-- Registrations are found before what was there. -/
theorem find?_registerAll (r : Registry) (registrations : List Registration) (kind : TableKind)
    (name : String) :
    ((r.registerAll registrations).table kind).find? name
      = (Entries.last? name (entriesOf kind registrations)).or ((r.table kind).find? name) := by
  induction registrations using List.reverseRecOn with
  | nil => rfl
  | append_singleton earlier registration ih =>
    have hregister : r.registerAll (earlier ++ [registration])
        = (r.registerAll earlier).register registration := List.foldl_concat ..
    rw [hregister, table_register, entriesOf, List.filterMap_append]
    cases hentry : registration.entry? kind with
    | none =>
      rw [List.filterMap_cons_none hentry, List.filterMap_nil, List.append_nil]
      exact ih
    | some entry =>
      rw [List.filterMap_cons_some hentry, List.filterMap_nil, Entries.last?_concat]
      refine (Table.find?_insert ..).trans ?_
      split
      · rfl
      · exact ih

/-- A registry holds what was registered. -/
theorem holds_ofList (registrations : List Registration) :
    (ofList registrations).Holds registrations := by
  intro kind name
  have hempty : (empty.table kind).find? name = none := by cases kind <;> rfl
  rw [ofList, find?_registerAll, hempty, Option.or_none]

/-- What is found was registered. -/
theorem Holds.mem_of_find? (h : r.Holds registrations) (kind : TableKind) {name : String}
    {content : kind.Content} (hfind : (r.table kind).find? name = some content) :
    .of kind name content ∈ registrations :=
  mem_entriesOf_iff.1 (Entries.mem_of_last? ((h kind name).symm.trans hfind))

/-- The names that are listed are the registered ones. -/
theorem Holds.mem_names_iff (h : r.Holds registrations) {kind : TableKind} {name : String} :
    name ∈ (r.table kind).names ↔ name ∈ Entries.keys (entriesOf kind registrations) := by
  rw [Table.mem_names_iff, h kind name, Entries.isSome_last?_iff]

/-- Only the last registration of each name counts. -/
theorem Holds.agrees (h : r.Holds registrations) (h' : r'.Holds others)
    (hlast : ∀ kind name, Entries.last? name (entriesOf kind registrations)
      = Entries.last? name (entriesOf kind others)) : r.Agrees r' := by
  intro kind name
  rw [h kind name, h' kind name, hlast]

/-- Registrations of distinct names have the same last ones in every order. -/
theorem last?_entriesOf_perm (h : registrations.Perm others)
    (hdistinct : ∀ kind, (Entries.keys (entriesOf kind registrations)).Nodup) (kind : TableKind)
    (name : String) :
    Entries.last? name (entriesOf kind registrations)
      = Entries.last? name (entriesOf kind others) :=
  Entries.last?_perm (hdistinct kind) (h.filterMap _) name

theorem Agrees.names_eq (h : r.Agrees r') (kind : TableKind) :
    (r.table kind).names = (r'.table kind).names := by
  rw [Table.names_eq, Table.names_eq, sortNames_eq_iff]
  exact Table.keys_perm (h kind)

end Registry

end Destructure
