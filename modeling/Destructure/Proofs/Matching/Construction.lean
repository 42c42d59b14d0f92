import Destructure.Proofs.Matching.Binders
import Destructure.Proofs.Value.Equality

set_option autoImplicit false

/-! # Matching inverts construction

A pattern of literals, binders, sequences without holes and mappings can be read the other way round:
given values for its names it constructs a value (`Pattern.construct`). Matching that value gives the
values of the names back (`Pattern.read_construct`), and if no entries are dropped, constructing from
what a match has bound gives the subject back (`Pattern.construct_equals_of_read`). -/

namespace Destructure

namespace Pattern

/-! ## Construction -/

/-- The node can be constructed from values for its names. -/
def Constructive : Pattern → Prop
  | .literal value => value.equals value
  | .binder _ => True
  | .sequence elements _ => none ∉ elements
  | .mapping _ _ => True
  | _ => False

/-- Nothing of a mapping is dropped: there is a name for the entries that no field names. -/
def KeepsEntries : Pattern → Prop
  | .mapping _ rest => rest.isSome
  | _ => True

/-- A literal holds no domain object to which another object is equal without being its equal. That is so
of every literal without such objects. -/
def SymmetricLiteral : Pattern → Prop
  | .literal value => ∀ x y, value.Contains x → y.alike x → x.alike y
  | _ => True

theorem symmetricLiteral_of_isData {value : Value} (h : value.IsData) :
    SymmetricLiteral (.literal value) :=
  fun x _ hx => absurd hx (h.not_contains x)

/-- The value of a rest has the form that the node takes: a sequence, or a mapping that names none of
the keys of the fields. -/
def RestFits (σ : String → Value) : Pattern → Prop
  | .sequence _ (some rest) => ∃ items, σ rest = .sequence items
  | .mapping fields (some rest) => ∃ entries, σ rest = .mapping entries ∧
      ∀ key ∈ fields.map (·.1), key ∉ Entries.keys entries
  | _ => True

/-- The items that the rest of a sequence stands for. -/
def restItems (σ : String → Value) (rest : Option String) : List Value :=
  ((rest.map σ).bind Value.items?).getD []

/-- The entries that the rest of a mapping stands for. -/
def restEntries (σ : String → Value) (rest : Option String) : List (String × Value) :=
  ((rest.map σ).bind Value.entries?).getD []

mutual

/-- The value that is constructed from values for the names: the rest of a sequence comes after its
elements, and that of a mapping after its fields. Nodes that are not constructive give `null`. -/
def construct (σ : String → Value) : Pattern → Value
  | .literal value => value
  | .binder name => σ name
  | .sequence elements rest => .sequence (constructElements σ elements ++ restItems σ rest)
  | .mapping fields rest => .mapping (constructFields σ fields ++ restEntries σ rest)
  | .wildcard | .alternation _ | .conjunction _ | .predicate _ | .extractor _ _ | .regex _ _ => .null

def constructElements (σ : String → Value) : List (Option Pattern) → List Value
  | [] => []
  | none :: rest => constructElements σ rest
  | some p :: rest => p.construct σ :: constructElements σ rest

def constructFields (σ : String → Value) : List (String × Pattern) → List (String × Value)
  | [] => []
  | (key, p) :: rest => (key, p.construct σ) :: constructFields σ rest

end

variable {σ : String → Value} {scope : Scope}

theorem constructElements_map_some (ps : List Pattern) :
    constructElements σ (ps.map some) = ps.map (construct σ) := by
  induction ps with
  | nil => rfl
  | cons p ps ih => rw [List.map_cons, constructElements, ih, List.map_cons]

theorem constructFields_eq_map (fields : List (String × Pattern)) :
    constructFields σ fields = fields.map fun field => (field.1, field.2.construct σ) := by
  induction fields with
  | nil => rfl
  | cons field fields ih => rw [constructFields, ih, List.map_cons]

theorem keys_constructFields (fields : List (String × Pattern)) :
    Entries.keys (constructFields σ fields) = fields.map (·.1) := by
  rw [constructFields_eq_map, Entries.keys, List.map_map]
  rfl

/-- Elements without holes are patterns. -/
theorem exists_eq_map_some {elements : List (Option Pattern)} (h : none ∉ elements) :
    ∃ ps : List Pattern, elements = ps.map some := by
  induction elements with
  | nil => exact ⟨[], rfl⟩
  | cons element rest ih =>
    obtain ⟨ps, rfl⟩ := ih fun hrest => h (List.mem_cons_of_mem _ hrest)
    cases element with
    | none => exact absurd List.mem_cons_self h
    | some p => exact ⟨p :: ps, rfl⟩

/-! ## Matching what was constructed -/

/-- The pattern takes what it constructs apart into the values of its names. -/
def TakesApart (σ : String → Value) (scope : Scope) (p : Pattern) : Prop :=
  ∀ site, (p.read scope site (p.construct σ)).result
    = .ok (some (p.declared.map fun name => (name, σ name)))

theorem readElements_construct {ps : List Pattern} (h : ∀ p ∈ ps, p.TakesApart σ scope)
    (site : Site) (index : Nat) (others : List Value) :
    (readElements (ps.map some) scope site index (ps.map (construct σ) ++ others)).result
      = .ok (some ((ps.flatMap declared).map fun name => (name, σ name))) := by
  induction ps generalizing index with
  | nil => rw [List.map_nil, readElements_nil]; rfl
  | cons p ps ih =>
    rw [List.forall_mem_cons] at h
    rw [List.map_cons, List.map_cons, List.cons_append, readElements]
    refine Reading.result_both_eq_some.2 ⟨_, _, h.1 _, ih h.2 (index + 1), ?_⟩
    rw [List.flatMap_cons, List.map_append]

theorem readFields_construct {fields : List (String × Pattern)}
    (h : ∀ p ∈ fields.map (·.2), p.TakesApart σ scope) {entries : List (String × Value)}
    (hfind : ∀ field ∈ fields, Entries.find? field.1 entries = some (field.2.construct σ))
    (site : Site) (index : Nat) :
    (readFields fields scope site index entries).result
      = .ok (some (((fields.map (·.2)).flatMap declared).map fun name => (name, σ name))) := by
  induction fields generalizing index with
  | nil => rw [readFields]; rfl
  | cons field fields ih =>
    rw [List.map_cons, List.forall_mem_cons] at h
    rw [List.forall_mem_cons] at hfind
    rw [readFields, hfind.1]
    refine Reading.result_both_eq_some.2 ⟨_, _, h.1 _, ih h.2 hfind.2 (index + 1), ?_⟩
    rw [List.map_cons, List.flatMap_cons, List.map_append]

theorem takesApart_sequence {ps : List Pattern} {rest : Option String}
    (hfits : RestFits σ (sequence (ps.map some) rest)) (h : ∀ p ∈ ps, p.TakesApart σ scope) :
    (sequence (ps.map some) rest).TakesApart σ scope := by
  intro site
  have hlength : lengthFits (ps.map some).length rest
      (ps.map (construct σ) ++ restItems σ rest).length := by
    cases rest <;> simp [lengthFits, restItems]
  rw [construct, constructElements_map_some, read, if_pos hlength]
  refine Reading.result_both_eq_some.2
    ⟨_, _, readElements_construct h site 0 _, Reading.result_bound _, ?_⟩
  rw [declared_sequence, reduceOption_map_some, List.map_append]
  congr 1
  cases rest with
  | none => rfl
  | some rest =>
    obtain ⟨items, hitems⟩ := hfits
    simp [leftover, restItems, hitems, Value.items?]

/-- The entries that are left over by the fields are those of the rest. -/
theorem otherEntries_construct {fields : List (String × Pattern)} {entries : List (String × Value)}
    (h : ∀ key ∈ fields.map (·.1), key ∉ Entries.keys entries) :
    otherEntries fields (constructFields σ fields ++ entries) = entries := by
  have hfields : (constructFields σ fields).filter
      (fun entry => !fields.any fun field => field.1 == entry.1) = [] := by
    rw [constructFields_eq_map, List.filter_eq_nil_iff]
    intro entry hentry
    obtain ⟨field, hfield, rfl⟩ := List.mem_map.1 hentry
    have hany : (fields.any fun other => other.1 == field.1) = true :=
      List.any_eq_true.2 ⟨field, hfield, beq_self_eq_true _⟩
    simp [hany]
  have hentries : entries.filter (fun entry => !fields.any fun field => field.1 == entry.1)
      = entries := by
    rw [List.filter_eq_self]
    intro entry hentry
    have hkey : entry.1 ∉ fields.map (·.1) := fun hmem => h _ hmem (List.mem_map_of_mem hentry)
    simpa using fun key p hfield hkey' => hkey (List.mem_map.2 ⟨(key, p), hfield, hkey'⟩)
  rw [otherEntries, List.filter_append, hfields, hentries, List.nil_append]

theorem takesApart_mapping {fields : List (String × Pattern)} {rest : Option String}
    (hnodup : (fields.map (·.1)).Nodup) (hfits : RestFits σ (mapping fields rest))
    (h : ∀ p ∈ fields.map (·.2), p.TakesApart σ scope) :
    (mapping fields rest).TakesApart σ scope := by
  intro site
  have hfind : ∀ field ∈ fields, Entries.find? field.1
      (constructFields σ fields ++ restEntries σ rest) = some (field.2.construct σ) := by
    intro field hfield
    have hmem : (field.1, field.2.construct σ) ∈ constructFields σ fields := by
      rw [constructFields_eq_map]
      exact List.mem_map.2 ⟨field, hfield, rfl⟩
    have hkeys : (Entries.keys (constructFields σ fields)).Nodup := by
      rwa [keys_constructFields]
    rw [Entries.find?_append, (Entries.find?_eq_some_iff hkeys).2 hmem, Option.some_or]
  rw [construct, read]
  refine Reading.result_both_eq_some.2
    ⟨_, _, readFields_construct h hfind site 0, Reading.result_bound _, ?_⟩
  rw [declared_mapping, List.map_append]
  congr 1
  cases rest with
  | none => rfl
  | some rest =>
    obtain ⟨entries, hentries, hkeys⟩ := hfits
    have hrest : restEntries σ (some rest) = entries := by
      simp [restEntries, hentries, Value.entries?]
    rw [hrest, otherEntries_construct hkeys]
    simp [leftover, hentries]

/-- A constructive pattern takes what it constructs apart again. -/
theorem read_construct {p : Pattern} (hform : p.Everywhere Constructive)
    (hcoherent : p.Everywhere Coherent) (hfits : p.Everywhere (RestFits σ)) :
    p.TakesApart σ scope := by
  induction p using partsInduction with
  | node p ih =>
    have hparts : ∀ q ∈ p.parts, q.TakesApart σ scope := fun q hq =>
      ih q hq (hform.part hq) (hcoherent.part hq) (hfits.part hq)
    cases p with
    | literal value =>
      intro site
      have hself : value.equals value := hform.root
      rw [construct, read, hself, declared_literal]
      rfl
    | binder name =>
      intro site
      rw [construct, read, declared_binder]
      rfl
    | sequence elements rest =>
      obtain ⟨ps, rfl⟩ := exists_eq_map_some hform.root
      rw [parts_sequence, reduceOption_map_some] at hparts
      exact takesApart_sequence hfits.root hparts
    | mapping fields rest =>
      rw [parts_mapping] at hparts
      exact takesApart_mapping hcoherent.root.keys_nodup hfits.root hparts
    | _ => exact hform.root.elim

/-! ## Constructing what was matched -/

/-- The values of the names are those that a match has bound. -/
def Agree (σ : String → Value) (pairs : List (String × Value)) : Prop :=
  ∀ pair ∈ pairs, σ pair.1 = pair.2

/-- What the pattern constructs from the bindings of a match equals the subject. -/
def PutsTogether (σ : String → Value) (scope : Scope) (p : Pattern) : Prop :=
  ∀ site (s : Value) pairs, s.Regular → (p.read scope site s).result = .ok (some pairs) → Agree σ pairs →
    (p.construct σ).equals s

theorem equalItems_of_readElements {ps : List Pattern} (h : ∀ p ∈ ps, p.PutsTogether σ scope)
    {site : Site} {index : Nat} {items : List Value} (hlength : ps.length ≤ items.length)
    (hregular : ∀ item ∈ items, item.Regular) {pairs : List (String × Value)}
    (hread : (readElements (ps.map some) scope site index items).result = .ok (some pairs))
    (hpairs : Agree σ pairs) {others : List Value}
    (hothers : List.Forall₂ (fun a b : Value => a.equals b) others (items.drop ps.length)) :
    List.Forall₂ (fun a b : Value => a.equals b) (ps.map (construct σ) ++ others) items := by
  induction ps generalizing items index pairs with
  | nil => exact hothers
  | cons p ps ih =>
    cases items with
    | nil => simp at hlength
    | cons item items =>
      rw [List.forall_mem_cons] at h hregular
      rw [List.map_cons, readElements] at hread
      obtain ⟨a, b, ha, hb, rfl⟩ := Reading.result_both_eq_some.1 hread
      rw [Agree, List.forall_mem_append] at hpairs
      refine .cons (h.1 _ _ _ hregular.1 ha hpairs.1) ?_
      exact ih h.2 (by simpa using hlength) hregular.2 hb hpairs.2 hothers

theorem putsTogether_sequence {ps : List Pattern} {rest : Option String}
    (h : ∀ p ∈ ps, p.PutsTogether σ scope) :
    (sequence (ps.map some) rest).PutsTogether σ scope := by
  intro site s pairs hregular hread hpairs
  cases s with
  | sequence items =>
    rw [read] at hread
    split at hread
    · next hlength =>
      obtain ⟨a, b, ha, hb, rfl⟩ := Reading.result_both_eq_some.1 hread
      obtain rfl : leftover rest (.sequence (items.drop (ps.map some).length)) = b := by
        simpa using hb
      rw [Agree, List.forall_mem_append] at hpairs
      rw [construct, constructElements_map_some, Value.equals_sequence_iff]
      have hitems : ∀ item ∈ items, item.Regular := fun item => hregular.item
      rw [List.length_map] at hlength hpairs
      cases rest with
      | none =>
        have hlength : items.length = ps.length := by simpa [lengthFits] using hlength
        refine equalItems_of_readElements h hlength.symm.le hitems ha hpairs.1 ?_
        rw [List.drop_eq_nil_of_le hlength.le]
        exact .nil
      | some rest =>
        have hlength : ps.length ≤ items.length := by simpa [lengthFits] using hlength
        have hrest : σ rest = .sequence (items.drop ps.length) :=
          hpairs.2 (rest, .sequence (items.drop ps.length)) (List.mem_singleton_self _)
        refine equalItems_of_readElements h hlength hitems ha hpairs.1 ?_
        have hothers : restItems σ (some rest) = items.drop ps.length := by
          simp [restItems, hrest, Value.items?]
        rw [hothers, List.forall₂_same]
        exact fun item hitem => (hitems item (List.mem_of_mem_drop hitem)).self
    · cases hread
  | _ =>
    rw [read] at hread
    · cases hread
    · simp

/-- What a match of fields says of each of them. -/
theorem field_of_readFields {fields : List (String × Pattern)} {site : Site} {index : Nat}
    {entries : List (String × Value)} {pairs : List (String × Value)}
    (hread : (readFields fields scope site index entries).result = .ok (some pairs))
    (hpairs : Agree σ pairs) : ∀ field ∈ fields, ∃ value t found,
      Entries.find? field.1 entries = some value ∧
        (field.2.read scope t value).result = .ok (some found) ∧ Agree σ found := by
  induction fields generalizing index pairs with
  | nil => simp
  | cons field fields ih =>
    obtain ⟨key, p⟩ := field
    rw [readFields] at hread
    cases hvalue : Entries.find? key entries with
    | none =>
      rw [hvalue] at hread
      cases hread
    | some value =>
      rw [hvalue] at hread
      obtain ⟨a, b, ha, hb, rfl⟩ := Reading.result_both_eq_some.1 hread
      rw [Agree, List.forall_mem_append] at hpairs
      rw [List.forall_mem_cons]
      exact ⟨⟨value, _, a, hvalue, ha, hpairs.1⟩, ih hb hpairs.2⟩

theorem mem_keys_otherEntries {fields : List (String × Pattern)} {entries : List (String × Value)}
    {key : String} : key ∈ Entries.keys (otherEntries fields entries) ↔
      key ∈ Entries.keys entries ∧ key ∉ fields.map (·.1) := by
  simp only [Entries.keys, otherEntries, List.mem_map, List.mem_filter, Bool.not_eq_true',
    List.any_eq_false, beq_iff_eq]
  constructor
  · rintro ⟨entry, ⟨hentry, hother⟩, rfl⟩
    refine ⟨⟨entry, hentry, rfl⟩, ?_⟩
    rintro ⟨field, hfield, hkey⟩
    exact hother field hfield hkey
  · rintro ⟨⟨entry, hentry, rfl⟩, hother⟩
    exact ⟨entry, ⟨hentry, fun field hfield hkey => hother ⟨field, hfield, hkey⟩⟩, rfl⟩

/-- Fields and left over entries make up the mapping. -/
theorem perm_keys_otherEntries {fields : List (String × Pattern)} {entries : List (String × Value)}
    (hfields : (fields.map (·.1)).Nodup) (hentries : (Entries.keys entries).Nodup)
    (hpresent : ∀ field ∈ fields, field.1 ∈ Entries.keys entries) :
    (fields.map (·.1) ++ Entries.keys (otherEntries fields entries)).Perm
      (Entries.keys entries) := by
  have hothers : (Entries.keys (otherEntries fields entries)).Nodup :=
    hentries.sublist (List.filter_sublist.map _)
  refine (List.perm_ext_iff_of_nodup ?_ hentries).2 fun key => ?_
  · refine List.nodup_append.2 ⟨hfields, hothers, ?_⟩
    rintro key hkey _ hother rfl
    exact (mem_keys_otherEntries.1 hother).2 hkey
  · rw [List.mem_append, mem_keys_otherEntries]
    constructor
    · rintro (hkey | hother)
      · obtain ⟨field, hfield, rfl⟩ := List.mem_map.1 hkey
        exact hpresent field hfield
      · exact hother.1
    · intro hkey
      by_cases hfield : key ∈ fields.map (·.1)
      · exact .inl hfield
      · exact .inr ⟨hkey, hfield⟩

theorem length_otherEntries {fields : List (String × Pattern)} {entries : List (String × Value)}
    (hfields : (fields.map (·.1)).Nodup) (hentries : (Entries.keys entries).Nodup)
    (hpresent : ∀ field ∈ fields, field.1 ∈ Entries.keys entries) :
    fields.length + (otherEntries fields entries).length = entries.length := by
  have hlength := (perm_keys_otherEntries hfields hentries hpresent).length_eq
  rwa [List.length_append, List.length_map, Entries.length_keys, Entries.length_keys] at hlength

theorem putsTogether_mapping {fields : List (String × Pattern)} {rest : String}
    (hnodup : (fields.map (·.1)).Nodup) (h : ∀ p ∈ fields.map (·.2), p.PutsTogether σ scope) :
    (mapping fields (some rest)).PutsTogether σ scope := by
  intro site s pairs hregular hread hpairs
  cases s with
  | mapping entries =>
    rw [read] at hread
    obtain ⟨a, b, ha, hb, rfl⟩ := Reading.result_both_eq_some.1 hread
    obtain rfl : leftover (some rest) (.mapping (otherEntries fields entries)) = b := by
      simpa using hb
    rw [Agree, List.forall_mem_append] at hpairs
    have hfields := field_of_readFields ha hpairs.1
    have hrest : σ rest = .mapping (otherEntries fields entries) :=
      hpairs.2 (rest, .mapping (otherEntries fields entries)) (List.mem_singleton_self _)
    have hothers : restEntries σ (some rest) = otherEntries fields entries := by
      simp [restEntries, hrest, Value.entries?]
    have hkeys := hregular.distinct.nodup_keys
    rw [construct, hothers, constructFields_eq_map, Value.equals_mapping_iff]
    refine ⟨?_, fun entry hentry => ?_⟩
    · rw [List.length_append, List.length_map]
      refine length_otherEntries hnodup hkeys fun field hfield => ?_
      obtain ⟨value, -, -, hvalue, -, -⟩ := hfields field hfield
      exact Entries.mem_keys_of_mem (Entries.mem_of_find? hvalue)
    · rcases List.mem_append.1 hentry with hentry | hentry
      · obtain ⟨field, hfield, rfl⟩ := List.mem_map.1 hentry
        obtain ⟨value, t, found, hvalue, hfound, hagree⟩ := hfields field hfield
        have hpart := h field.2 (List.mem_map_of_mem hfield)
        have hvalueRegular := hregular.entry (Entries.mem_of_find? hvalue)
        exact ⟨value, hvalue, hpart t value found hvalueRegular hfound hagree⟩
      · -- a left over entry is looked up under its own key, so keys must be distinct here
        have hmem : entry ∈ entries := (List.mem_filter.1 hentry).1
        exact ⟨entry.2, (Entries.find?_eq_some_iff hkeys).2 hmem, (hregular.entry hmem).self⟩
  | _ =>
    rw [read] at hread
    · cases hread
    · simp

/-- A constructive pattern that keeps all entries puts a subject together from what it bound. -/
theorem construct_equals_of_read {p : Pattern} (hform : p.Everywhere Constructive)
    (hcoherent : p.Everywhere Coherent) (hsymm : p.Everywhere SymmetricLiteral)
    (hkeeps : p.Everywhere KeepsEntries) : p.PutsTogether σ scope := by
  induction p using partsInduction with
  | node p ih =>
    have hparts : ∀ q ∈ p.parts, q.PutsTogether σ scope := fun q hq =>
      ih q hq (hform.part hq) (hcoherent.part hq) (hsymm.part hq) (hkeeps.part hq)
    cases p with
    | literal value =>
      intro site s pairs hregular hread _
      rw [read] at hread
      cases hequal : s.equals value with
      | true => exact Value.equals_symm hregular.distinct (fun x y _ hy => hsymm.root y x hy) hequal
      | false =>
        rw [hequal] at hread
        cases hread
    | binder name =>
      intro site s pairs hregular hread hpairs
      rw [read] at hread
      obtain rfl : [(name, s)] = pairs := by simpa using hread
      have hname : σ name = s := hpairs (name, s) List.mem_cons_self
      rw [construct, hname]
      exact hregular.self
    | sequence elements rest =>
      obtain ⟨ps, rfl⟩ := exists_eq_map_some hform.root
      rw [parts_sequence, reduceOption_map_some] at hparts
      exact putsTogether_sequence hparts
    | mapping fields rest =>
      rw [parts_mapping] at hparts
      obtain ⟨rest, rfl⟩ := Option.isSome_iff_exists.1 hkeeps.root
      exact putsTogether_mapping hcoherent.root.keys_nodup hparts
    | _ => exact hform.root.elim

end Pattern

/-- The values of bound names. -/
def Bindings.value (b : Bindings) (name : String) : Value := (b.get? name).getD .null

theorem Bindings.agree_value (b : Bindings) : Pattern.Agree b.value b.entries := by
  rintro ⟨name, value⟩ hmem
  have hfind : b.get? name = some value := (Entries.find?_eq_some_iff b.nodup).2 hmem
  rw [Bindings.value, hfind, Option.getD_some]

namespace Compiled

open Pattern

/-- Matching inverts construction, for a pattern of literals that equal themselves, binders, sequences
without holes, and mappings.

* Matching what is constructed from values for the names binds the binders, in their order, to exactly
  these values.
* If every mapping has a name for its other entries, a subject that equals itself is equal to what is
  constructed from the bindings of its match. Subjects are values that name no key twice, and equality
  with the literals is symmetric, as it is for every literal without domain objects. -/
theorem match_inverts_construct (c : Compiled) (hform : c.pattern.Everywhere Constructive) :
    (∀ σ, c.pattern.Everywhere (RestFits σ) →
      ∃ b, (c.matchValue (c.pattern.construct σ)).result = .ok (.matched b) ∧
        b.entries = c.binders.map fun name => (name, σ name)) ∧
    (c.pattern.Everywhere KeepsEntries → c.pattern.Everywhere SymmetricLiteral →
      ∀ s : Value, s.DistinctKeys → s.equals s →
        ∀ b, (c.matchValue s).result = .ok (.matched b) →
          (c.pattern.construct b.value).equals s) := by
  refine ⟨fun σ hfits => ?_, fun hkeeps hsymm s hdistinct hself b hmatch => ?_⟩
  · have hread := @read_construct _ .root _ hform c.fits.2 hfits []
    rw [← c.matchIn_reads, Run.result_map, map_eq_ok] at hread
    obtain ⟨outcome, houtcome, hpairs⟩ := hread
    cases outcome with
    | noMatch => cases hpairs
    | matched b => exact ⟨b, houtcome, by rw [c.binders_eq]; exact Option.some.inj hpairs⟩
  · have hread := read_of_matched hmatch
    exact construct_equals_of_read hform c.fits.2 hsymm hkeeps [] s _ ⟨hdistinct, hself⟩ hread
      b.agree_value

/-- A tagged pair, perhaps with more items and other entries. -/
def taggedPair : Compiled where
  pattern := .mapping [("tag", .literal (.text "pair")),
    ("items", .sequence [some (.binder "first"), some (.binder "second")] (some "more"))]
    (some "other")
  binders := ["first", "second", "more", "other"]
  depth := 3
  accepted := by cbv

theorem taggedPair_everywhere {P : Pattern → Prop} (hroot : P taggedPair.pattern)
    (htag : P (.literal (.text "pair")))
    (hitems : P (.sequence [some (.binder "first"), some (.binder "second")] (some "more")))
    (hbinder : ∀ name, P (.binder name)) : taggedPair.pattern.Everywhere P := by
  refine everywhere_iff.2 ⟨hroot, ?_⟩
  simp only [taggedPair, parts_mapping, List.map_cons, List.map_nil, List.forall_mem_cons]
  refine ⟨everywhere_iff.2 ⟨htag, by simp⟩, everywhere_iff.2 ⟨hitems, ?_⟩, by simp⟩
  simp [List.reduceOption, everywhere_iff (p := .binder _), hbinder]

/-- The entries of the subject come in another order than the fields. -/
theorem match_inverts_construct_taggedPair :
    (∃ b, (taggedPair.matchValue (.mapping [("tag", .text "pair"),
          ("items", .sequence [.bool true, .bool true, .null]), ("x", .null)])).result
        = .ok (.matched b) ∧
      b.entries = [("first", .bool true), ("second", .bool true), ("more", .sequence [.null]),
        ("other", .mapping [("x", .null)])]) ∧
    ∃ b, (taggedPair.matchValue (.mapping [("x", .null),
          ("items", .sequence [.null, .bool true]), ("tag", .text "pair")])).result
        = .ok (.matched b) ∧
      (taggedPair.pattern.construct b.value).equals (.mapping [("x", .null),
        ("items", .sequence [.null, .bool true]), ("tag", .text "pair")]) := by
  have htag : (Value.text "pair").equals (.text "pair") := by cbv
  have hform : taggedPair.pattern.Everywhere Constructive :=
    taggedPair_everywhere trivial htag (by simp [Constructive]) fun _ => trivial
  obtain ⟨hconstruct, hmatch⟩ := taggedPair.match_inverts_construct hform
  constructor
  · let σ : String → Value := fun name =>
      if name = "more" then .sequence [.null]
      else if name = "other" then .mapping [("x", .null)] else .bool true
    have hfits : taggedPair.pattern.Everywhere (RestFits σ) :=
      taggedPair_everywhere ⟨[("x", .null)], rfl, by decide⟩ trivial ⟨[.null], rfl⟩ fun _ => trivial
    exact hconstruct σ hfits
  · have hkeeps : taggedPair.pattern.Everywhere KeepsEntries :=
      taggedPair_everywhere rfl trivial trivial fun _ => trivial
    have hsymm : taggedPair.pattern.Everywhere SymmetricLiteral :=
      taggedPair_everywhere trivial (symmetricLiteral_of_isData (.text "pair")) trivial
        fun _ => trivial
    have hdistinct : (Value.mapping [("x", .null), ("items", .sequence [.null, .bool true]),
        ("tag", .text "pair")]).DistinctKeys := by
      refine .mapping (by decide) ?_
      simp only [List.forall_mem_cons, List.not_mem_nil, false_imp_iff, implies_true, and_true]
      refine ⟨.null, .sequence ?_, .text "pair"⟩
      simp only [List.forall_mem_cons, List.not_mem_nil, false_imp_iff, implies_true, and_true]
      exact ⟨.null, .bool true⟩
    let b := (((Bindings.empty.bind "first" .null).bind "second" (.bool true)).bind "more"
      (.sequence [])).bind "other" (.mapping [("x", .null)])
    have hmatched : (taggedPair.matchValue (.mapping [("x", .null),
        ("items", .sequence [.null, .bool true]), ("tag", .text "pair")])).result
          = .ok (.matched b) := by cbv
    exact ⟨_, hmatched, hmatch hkeeps hsymm _ hdistinct (by cbv) _ hmatched⟩

end Compiled

end Destructure
