import Destructure.Proofs.Matching.Accumulator
import Destructure.Proofs.Value.Parts
import Destructure.Proofs.Value.Transitivity

set_option autoImplicit false

/-! # What equality sees of a value

Equality is symmetric and transitive, but a NaN equals nothing. So a value equals itself, and with that
every copy of itself, just when there is no NaN to be compared: none among what the value holds through
sequences and mappings (`Value.equals_self_iff`). What an object holds does not count, because a copy is
the same object.

Equality does not see in which order a mapping has its keys, nor where objects were made, but for which
of them are the same one. `Value.Rearranged` relates values that differ in no other way, and equality says
of rearranged values what it says of the values themselves (`Value.equals_rearranged`). -/

namespace Destructure.Value

/-! ## Values that equal themselves -/

/-- No NaN is reached through sequences and mappings only. -/
def NaNFree (a : Value) : Prop := ∀ x, a.Holds (.number x) → ¬ x.isNaN

theorem nanFree_number {x : Number} : (number x).NaNFree ↔ ¬ x.isNaN := forall_held_number

/-- Any other value is free of NaNs when its parts are. -/
theorem nanFree_iff {a : Value} (ha : ∀ x, a ≠ number x) :
    a.NaNFree ↔ ∀ part ∈ a.parts, part.NaNFree := forall_held_iff ha

/-- A value equals itself, and any copy of itself, just when no NaN is reached in it through sequences
and mappings. -/
theorem equals_self_iff {a : Value} (ha : a.DistinctKeys) : a.equals a ↔ a.NaNFree := by
  induction ha with
  | number x => rw [equals, Number.equals_self, nanFree_number]; simp
  | sequence _ ih =>
    rw [equals_sequence_iff, List.forall₂_same, nanFree_iff (by simp)]
    exact forall₂_congr ih
  | mapping hkeys _ ih =>
    rw [equals_mapping_self_iff hkeys, nanFree_iff (by simp), parts, List.forall_mem_map]
    exact forall₂_congr ih
  | null | bool b | text s | callable identity name | option _ _ | marker identity mark
  | sealed identity object =>
    rw [nanFree_iff (by simp)]
    simp [equals, parts]

/-! ## Other orders of keys -/

/-- The second value is the first one with the entries of its mappings in some other order, at any
depth, and with its objects made in other places. -/
inductive Rearranged (place : Identity → Identity) : Value → Value → Prop
  | null : Rearranged place .null .null
  | bool (b : Bool) : Rearranged place (.bool b) (.bool b)
  | number (x : Number) : Rearranged place (.number x) (.number x)
  | text (s : String) : Rearranged place (.text s) (.text s)
  | sequence {items others : List Value} (hlength : items.length = others.length)
    (h : ∀ (i : Nat) (a b : Value), items[i]? = some a → others[i]? = some b →
      Rearranged place a b) :
    Rearranged place (.sequence items) (.sequence others)
  | mapping {entries others : List (String × Value)}
    (hkeys : (Entries.keys entries).Perm (Entries.keys others))
    (h : ∀ key a b, (key, a) ∈ entries → (key, b) ∈ others → Rearranged place a b) :
    Rearranged place (.mapping entries) (.mapping others)
  | callable (i : Identity) (name : String) :
    Rearranged place (.callable i name) (.callable (place i) name)
  | option {i : Identity} {content other : Option Value} (hpresent : content.isSome = other.isSome)
    (h : ∀ a b, content = some a → other = some b → Rearranged place a b) :
    Rearranged place (.option i content) (.option (place i) other)
  | marker (i : Identity) (mark : CharMarker) :
    Rearranged place (.marker i mark) (.marker (place i) mark)
  | sealed (i : Identity) (object : SealedObject) :
    Rearranged place (.sealed i object) (.sealed (place i) object)

/-- Under a key that comes once there is one value. -/
theorem eq_of_mem_entries {entries others : List (String × Value)} (hperm : entries.Perm others)
    (hnodup : (Entries.keys entries).Nodup) {key : String} {a b : Value} (ha : (key, a) ∈ entries)
    (hb : (key, b) ∈ others) : a = b := by
  have hfirst := (Entries.find?_eq_some_iff hnodup).2 ha
  have hsecond := (Entries.find?_eq_some_iff hnodup).2 (hperm.mem_iff.2 hb)
  exact Option.some.inj (hfirst.symm.trans hsecond)

/-- Nothing is rearranged where all stays in its place. -/
theorem rearranged_self {a : Value} (ha : a.DistinctKeys) : a.Rearranged id a := by
  induction ha with
  | null => exact .null
  | bool b => exact .bool b
  | number x => exact .number x
  | text s => exact .text s
  | sequence h ih =>
    refine .sequence rfl fun i a b ha hb => ?_
    obtain rfl : a = b := Option.some.inj (ha.symm.trans hb)
    exact ih a (List.mem_of_getElem? ha)
  | mapping hkeys h ih =>
    refine .mapping (.refl _) fun key a b ha hb => ?_
    obtain rfl := eq_of_mem_entries (.refl _) hkeys ha hb
    exact ih _ ha
  | callable i name => exact .callable i name
  | @option i content h ih =>
    refine .option rfl fun a b ha hb => ?_
    obtain rfl : a = b := Option.some.inj (ha.symm.trans hb)
    exact ih a ha
  | marker i mark => exact .marker i mark
  | sealed i object => exact .sealed i object

/-- A mapping with its entries in another order is rearranged. -/
theorem rearranged_of_perm {entries others : List (String × Value)} (hperm : entries.Perm others)
    (h : (mapping entries).DistinctKeys) : (mapping entries).Rearranged id (mapping others) := by
  refine .mapping (hperm.map _) fun key a b ha hb => ?_
  obtain rfl := eq_of_mem_entries hperm h.nodup_keys ha hb
  exact rearranged_self (h.entries _ ha)

theorem equals_sequence_iff_getElem? {items others : List Value} :
    (sequence items).equals (sequence others) ↔ items.length = others.length ∧
      ∀ (i : Nat) (a b : Value), items[i]? = some a → others[i]? = some b → a.equals b := by
  rw [equals_sequence_iff, List.forall₂_iff_get]
  refine and_congr_right fun _ => ⟨fun h i a b ha hb => ?_, fun h i hi hi' => ?_⟩
  · obtain ⟨hi, rfl⟩ := List.getElem?_eq_some_iff.1 ha
    obtain ⟨hi', rfl⟩ := List.getElem?_eq_some_iff.1 hb
    exact h i hi hi'
  · exact h i _ _ (List.getElem?_eq_getElem hi) (List.getElem?_eq_getElem hi')

/-- Sequences stay equal when equal items are replaced by equal ones, position by position. -/
theorem equals_sequence_of_items {xs xs' ys ys' : List Value} (hxs : xs.length = xs'.length)
    (hys : ys.length = ys'.length)
    (h : ∀ (i : Nat) (x x' y y' : Value), xs[i]? = some x → xs'[i]? = some x' → ys[i]? = some y →
      ys'[i]? = some y' → x.equals y → x'.equals y')
    (hequals : (sequence xs).equals (sequence ys)) : (sequence xs').equals (sequence ys') := by
  obtain ⟨hlength, hitems⟩ := equals_sequence_iff_getElem?.1 hequals
  refine equals_sequence_iff_getElem?.2 ⟨by omega, fun i x' y' hx' hy' => ?_⟩
  have hi : i < xs'.length := (List.getElem?_eq_some_iff.1 hx').1
  have hx := List.getElem?_eq_getElem (l := xs) (i := i) (by omega)
  have hy := List.getElem?_eq_getElem (l := ys) (i := i) (by omega)
  exact h i _ x' _ y' hx hx' hy hy' (hitems i _ _ hx hy)

/-- Mappings stay equal when equal values are replaced by equal ones, key by key. -/
theorem equals_mapping_of_entries {xs xs' ys ys' : List (String × Value)}
    (hxs : (Entries.keys xs').Perm (Entries.keys xs)) (hys : (Entries.keys ys).Perm (Entries.keys ys'))
    (hnodup : (Entries.keys ys').Nodup)
    (h : ∀ key x x' y y', (key, x) ∈ xs → (key, x') ∈ xs' → (key, y) ∈ ys → (key, y') ∈ ys' →
      x.equals y → x'.equals y')
    (hequals : (mapping xs).equals (mapping ys)) : (mapping xs').equals (mapping ys') := by
  obtain ⟨hlength, hentries⟩ := equals_mapping_iff.1 hequals
  refine equals_mapping_iff.2 ⟨?_, fun entry hentry => ?_⟩
  · have hx := hxs.length_eq
    have hy := hys.length_eq
    simp only [Entries.length_keys] at hx hy
    omega
  · obtain ⟨key, x'⟩ := entry
    -- the entry of this key before, the one that this equals, and where that one has gone
    obtain ⟨⟨_, x⟩, hx, rfl⟩ := List.mem_map.1 (hxs.mem_iff.1 (Entries.mem_keys_of_mem hentry))
    obtain ⟨y, hy, hxy⟩ := hentries _ hx
    have hy := Entries.mem_of_find? hy
    obtain ⟨⟨_, y'⟩, hy', rfl⟩ := List.mem_map.1 (hys.mem_iff.1 (Entries.mem_keys_of_mem hy))
    exact ⟨y', (Entries.find?_eq_some_iff hnodup).2 hy', h _ x x' y y' hx hentry hy hy' hxy⟩

/-- Contents are compared alike when the same of them are present, and these are compared alike. -/
theorem equalContents_congr {a b a' b' : Option Value} (ha : a.isSome = a'.isSome)
    (hb : b.isSome = b'.isSome)
    (h : ∀ x y x' y', a = some x → b = some y → a' = some x' → b' = some y' →
      x.equals y = x'.equals y') : equalContents a b = equalContents a' b' := by
  cases a with
  | none =>
    obtain rfl : a' = none := by simpa using ha.symm
    cases b with
    | none =>
      obtain rfl : b' = none := by simpa using hb.symm
      rfl
    | some y =>
      obtain ⟨y', rfl⟩ := Option.isSome_iff_exists.1 hb.symm
      simp only [equalContents]
  | some x =>
    obtain ⟨x', rfl⟩ := Option.isSome_iff_exists.1 ha.symm
    cases b with
    | none =>
      obtain rfl : b' = none := by simpa using hb.symm
      simp only [equalContents]
    | some y =>
      obtain ⟨y', rfl⟩ := Option.isSome_iff_exists.1 hb.symm
      rw [equalContents, equalContents]
      exact h x y x' y' rfl rfl rfl rfl

variable {place : Identity → Identity}

/-- Equality sees no order of keys and no places, but for which objects are the same one. -/
theorem equals_rearranged (hplace : Function.Injective place) {a a' b b' : Value}
    (ha : a.Rearranged place a') (hb : b.Rearranged place b') (hdistinct : b.DistinctKeys) :
    a.equals b = a'.equals b' := by
  have hsame (i j : Identity) : (i == j) = (place i == place j) := by
    rw [Bool.eq_iff_iff, beq_iff_eq, beq_iff_eq, hplace.eq_iff]
  induction ha generalizing b b' with
  | sequence hlength _ ih =>
    cases hb with
    | sequence hlength' h' =>
      have hitem := hdistinct.items
      rw [Bool.eq_iff_iff]
      constructor
      · refine equals_sequence_of_items hlength hlength' ?_
        intro i x x' y y' hx hx' hy hy' hxy
        rwa [← ih i x x' hx hx' (h' i y y' hy hy') (hitem y (List.mem_of_getElem? hy))]
      · refine equals_sequence_of_items hlength.symm hlength'.symm ?_
        intro i x' x y' y hx' hx hy' hy hxy
        rwa [ih i x x' hx hx' (h' i y y' hy hy') (hitem y (List.mem_of_getElem? hy))]
    | _ => simp [equals]
  | mapping hkeys _ ih =>
    cases hb with
    | mapping hkeys' h' =>
      have hentry := hdistinct.entries
      have hnodup := hdistinct.nodup_keys
      rw [Bool.eq_iff_iff]
      constructor
      · refine equals_mapping_of_entries hkeys.symm hkeys' (hkeys'.nodup_iff.1 hnodup) ?_
        intro key x x' y y' hx hx' hy hy' hxy
        rwa [← ih key x x' hx hx' (h' key y y' hy hy') (hentry _ hy)]
      · refine equals_mapping_of_entries hkeys hkeys'.symm hnodup ?_
        intro key x' x y' y hx' hx hy' hy hxy
        rwa [ih key x x' hx hx' (h' key y y' hy hy') (hentry _ hy)]
    | _ => simp [equals]
  | @option i content other hpresent _ ih =>
    cases hb with
    | @option j content' other' hpresent' h' =>
      have hcontent : equalContents content content' = equalContents other other' := by
        refine equalContents_congr hpresent hpresent' fun x y x' y' hx hy hx' hy' => ?_
        exact ih x x' hx hx' (h' y y' hy hy') (hdistinct.content y hy)
      rw [equals, equals, hsame, hcontent]
    | _ => simp [equals]
  | callable i name =>
    cases hb with
    | callable j name' => rw [equals, equals, hsame]
    | _ => simp [equals]
  | marker i mark =>
    cases hb with
    | marker j mark' => rw [equals, equals, hsame]
    | _ => simp [equals]
  | sealed i object =>
    cases hb with
    | sealed j object' => rw [equals, equals, hsame]
    | _ => simp [equals]
  | null | bool x | number x | text s =>
    cases hb <;> simp [equals]

/-! ## A partial equivalence -/

/-- A literal matches its own value just when that equals itself. -/
theorem matchIn_literal_self {c : Compiled} {a : Value} (hc : c.pattern = .literal a) (scope : Scope)
    (site : Site) : (c.matchIn a scope site).result
      = .ok (if a.equals a then .matched .empty else .noMatch) := by
  have hread : (c.pattern.read scope site a).result = .ok (if a.equals a then some [] else none) := by
    rw [hc, Pattern.read]
    cases a.equals a <;> rfl
  obtain ⟨outcome, houtcome, hpairs⟩ := c.matchIn_eq_ok hread
  rw [houtcome]
  refine congrArg _ (Outcome.pairs?_injective (hpairs.trans ?_))
  cases a.equals a <;> rfl

/-- What equality is on values that name no key twice, with one object in each place.

* It is symmetric and transitive, when what domains say of other objects than optional values and markers
  is, which goes without saying where there are no such objects.
* It does not see in which order mappings have their keys, at any depth, nor where objects are, as long
  as different objects stay different.
* A value equals itself, and its copies, just when no NaN is reached in it through sequences and
  mappings only.
* So a literal matches its own value just then. -/
theorem equals_partialEquivalence (heap : Heap) :
    ((∀ place, heap.sealed place = none) → heap.Symmetric ∧ heap.Transitive) ∧
    (heap.Symmetric → ∀ a b : Value, a.Sound heap → b.Sound heap → a.equals b → b.equals a) ∧
    (heap.Transitive → ∀ a b c : Value, a.Sound heap → b.Sound heap → c.Sound heap →
      a.equals b → b.equals c → a.equals c) ∧
    (∀ place : Identity → Identity, Function.Injective place → ∀ a a' b b' : Value,
      a.Sound heap → b.Sound heap → a.Rearranged place a' → b.Rearranged place b' →
        a.equals b = a'.equals b') ∧
    (∀ a : Value, a.Sound heap → (a.equals a ↔ a.NaNFree)) ∧
    ∀ a : Value, a.Sound heap → ∃ c, (Pattern.literal a).compile = .ok c ∧ ∀ scope site,
      ((c.matchIn a scope site).result = .ok (.matched .empty) ↔ a.NaNFree) ∧
      ((c.matchIn a scope site).result = .ok .noMatch ↔ ¬ a.NaNFree) := by
  refine ⟨fun hnone => ⟨fun x _ hx => absurd hx (Heap.not_made hnone x),
      fun x _ _ hx => absurd hx (Heap.not_made hnone x)⟩,
    fun hsymm a b ha hb => ha.equals_symm hsymm hb,
    fun htrans a b c ha hb hc => equals_trans htrans ha.placed hb.placed hc.placed,
    fun place hplace a a' b b' _ hb hab hbb => equals_rearranged hplace hab hbb hb.distinct,
    fun a ha => equals_self_iff ha.distinct, fun a ha => ?_⟩
  let c : Compiled := ⟨.literal a, [], 1, rfl⟩
  refine ⟨c, Pattern.compile_eq_ok.2 rfl, fun scope site => ?_⟩
  rw [matchIn_literal_self rfl, ← equals_self_iff ha.distinct]
  cases a.equals a <;> simp

/-- Every optional value holds a NaN. -/
def ofNaN : Heap where
  option := fun _ => some (.number .nan)
  sealed := fun _ => none

/-- An optional NaN beside a mapping. -/
def besideNaN (entries : List (String × Value)) : Value :=
  .sequence [.option [0] (some (.number .nan)), .mapping entries]

/-- A flag and a null, in that order. -/
def flagEntries : List (String × Value) := [("flag", .bool true), ("none", .null)]

theorem sound_besideNaN : (besideNaN flagEntries).Sound ofNaN := by
  refine .of_items ?_
  simp only [List.forall_mem_cons, List.not_mem_nil, false_imp_iff, implies_true, and_true]
  refine ⟨⟨.option ?_, .option rfl ?_⟩, .mapping (by decide) ?_, .mapping ?_⟩
  · rintro _ ⟨⟩
    exact .number _
  · rintro _ ⟨⟩
    exact .number _
  · simp only [flagEntries, List.forall_mem_cons, List.not_mem_nil, false_imp_iff, implies_true,
      and_true]
    exact ⟨.bool true, .null⟩
  · simp only [flagEntries, List.forall_mem_cons, List.not_mem_nil, false_imp_iff, implies_true,
      and_true]
    exact ⟨.bool true, .null⟩

theorem nanFree_besideNaN : (besideNaN flagEntries).NaNFree := by
  refine (nanFree_iff (by simp [besideNaN])).2 ?_
  simp [besideNaN, flagEntries, parts, nanFree_iff]

theorem equals_partialEquivalence_besideNaN :
    (besideNaN flagEntries).equals (besideNaN flagEntries.reverse) ∧
      (∀ b : Value, b.Sound ofNaN → (besideNaN flagEntries).equals b →
        b.equals (besideNaN flagEntries)) ∧
      ∃ c, (Pattern.literal (besideNaN flagEntries)).compile = .ok c ∧
        (c.matchIn (besideNaN flagEntries) .root []).result = .ok (.matched .empty) := by
  obtain ⟨hdomains, hsymm, -, hrearranged, hself, hliteral⟩ := equals_partialEquivalence ofNaN
  have hsound := sound_besideNaN
  have hreverse : (besideNaN flagEntries).Rearranged id (besideNaN flagEntries.reverse) := by
    refine .sequence rfl fun i a b ha hb => ?_
    match i with
    | 0 =>
      obtain ⟨rfl, rfl⟩ := And.intro (Option.some.inj ha) (Option.some.inj hb)
      exact rearranged_self (hsound.distinct.items _ List.mem_cons_self)
    | 1 =>
      obtain ⟨rfl, rfl⟩ := And.intro (Option.some.inj ha) (Option.some.inj hb)
      exact rearranged_of_perm (List.reverse_perm _).symm
        (hsound.distinct.items _ (List.mem_cons_of_mem _ List.mem_cons_self))
    | i + 2 => cases ha
  refine ⟨?_, fun b hb => hsymm (hdomains fun _ => rfl).1 _ b hsound hb, ?_⟩
  · rw [← hrearranged id Function.injective_id _ _ _ _ hsound hsound
      (rearranged_self hsound.distinct) hreverse]
    exact (hself _ hsound).2 nanFree_besideNaN
  · obtain ⟨c, hc, hmatch⟩ := hliteral _ hsound
    exact ⟨c, hc, (hmatch .root []).1.2 nanFree_besideNaN⟩

end Destructure.Value
