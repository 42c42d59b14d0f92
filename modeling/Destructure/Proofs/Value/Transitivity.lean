import Destructure.Proofs.Value.Data
import Destructure.Proofs.Value.Equality

set_option autoImplicit false

/-! # Equality is transitive

Objects are equal when they are the same object, or when their domain says so. The first is a matter
of places and the second of contents, and one can follow the other only because a place holds one
object: where that is so (`Value.Placed`), equality is transitive, if what the domains say is
(`Value.equals_trans`).

For values that also name no key twice equality is symmetric in the same way, so among them it is as
good as a partial equivalence. `Value.Same` packs this up, with what equal values have to say about their
parts: equal items position by position, equal entries key by key, and equal leftovers. -/

namespace Destructure

/-- What was made in each place: the contents of optional values, and other domain objects, where there is
one. -/
structure Heap where
  option : Identity → Option Value
  sealed : Identity → Option SealedObject

namespace Heap

/-- The object was made in some place. -/
def Made (heap : Heap) (object : SealedObject) : Prop :=
  ∃ identity, heap.sealed identity = some object

theorem not_made {heap : Heap} (h : ∀ identity, heap.sealed identity = none)
    (object : SealedObject) : ¬ heap.Made object := by
  rintro ⟨identity, hidentity⟩
  rw [h] at hidentity
  cases hidentity

/-- Domains hold objects equal in both directions. -/
def Symmetric (heap : Heap) : Prop :=
  ∀ x y, heap.Made x → heap.Made y → x.alike y → y.alike x

/-- What domains hold equal to one object they hold equal. -/
def Transitive (heap : Heap) : Prop :=
  ∀ x y z, heap.Made x → heap.Made y → heap.Made z → x.alike y → y.alike z → x.alike z

end Heap

namespace Value

/-- Every optional value and every domain object in the value, at any depth, is the one that was made
in its place. -/
inductive Placed (heap : Heap) : Value → Prop
  | null : Placed heap .null
  | bool (b : Bool) : Placed heap (.bool b)
  | number (x : Number) : Placed heap (.number x)
  | text (s : String) : Placed heap (.text s)
  | sequence {items : List Value} (h : ∀ item ∈ items, Placed heap item) :
    Placed heap (.sequence items)
  | mapping {entries : List (String × Value)} (h : ∀ entry ∈ entries, Placed heap entry.2) :
    Placed heap (.mapping entries)
  | callable (identity : Identity) (name : String) : Placed heap (.callable identity name)
  | option {identity : Identity} {content : Option Value} (hmade : heap.option identity = content)
    (h : ∀ value, content = some value → Placed heap value) : Placed heap (.option identity content)
  | marker (identity : Identity) (mark : CharMarker) : Placed heap (.marker identity mark)
  | sealed {identity : Identity} {object : SealedObject}
    (hmade : heap.sealed identity = some object) : Placed heap (.sealed identity object)

variable {heap : Heap}

theorem Placed.items {items : List Value} (h : Placed heap (.sequence items)) :
    ∀ item ∈ items, Placed heap item := by
  cases h with
  | sequence h => exact h

theorem Placed.entries {entries : List (String × Value)} (h : Placed heap (.mapping entries)) :
    ∀ entry ∈ entries, Placed heap entry.2 := by
  cases h with
  | mapping h => exact h

/-- One place holds one optional value. -/
theorem Placed.content_eq {i j : Identity} {x y : Option Value} (hx : Placed heap (.option i x))
    (hy : Placed heap (.option j y)) (hij : i = j) : x = y := by
  cases hx with
  | option hx _ =>
    cases hy with
    | option hy _ => rw [← hx, ← hy, hij]

theorem Placed.content {i : Identity} {content : Option Value}
    (h : Placed heap (.option i content)) : ∀ value, content = some value → Placed heap value := by
  cases h with
  | option _ h => exact h

/-- One place holds one domain object. -/
theorem Placed.object_eq {i j : Identity} {x y : SealedObject} (hx : Placed heap (.sealed i x))
    (hy : Placed heap (.sealed j y)) (hij : i = j) : x = y := by
  cases hx with
  | sealed hx =>
    cases hy with
    | sealed hy => exact Option.some.inj (hx.symm.trans (hij ▸ hy))

/-- The domain objects in the value were made in some place. -/
theorem Placed.made {a : Value} (h : a.Placed heap) {object : SealedObject}
    (hobject : a.Contains object) : heap.Made object := by
  induction hobject with
  | sealed identity =>
    cases h with
    | sealed hmade => exact ⟨identity, hmade⟩
  | item hitem _ ih => exact ih (h.items _ hitem)
  | entry hentry _ ih => exact ih (h.entries _ hentry)
  | content _ ih => exact ih (h.content _ rfl)

/-- There is nothing in data that could have been made anywhere. -/
theorem IsData.placed {a : Value} (h : a.IsData) : a.Placed heap := by
  induction h with
  | null => exact .null
  | bool b => exact .bool b
  | number x => exact .number x
  | text s => exact .text s
  | sequence _ ih => exact .sequence ih
  | mapping _ ih => exact .mapping ih

end Value

/-! ## Transitivity -/

namespace Value

variable {heap : Heap}

/-- The value is equal to whatever a value that it equals is equal to. -/
def Chains (heap : Heap) (a : Value) : Prop :=
  ∀ b c : Value, b.Placed heap → c.Placed heap → a.equals b → b.equals c → a.equals c

/-- Where equal means the same there is nothing to tell apart. -/
theorem chains_of_eq {a : Value} (h : ∀ b : Value, a.equals b → b = a) : a.Chains heap := by
  intro b c _ _ hab hbc
  obtain rfl := h b hab
  exact hbc

theorem chains_number (x : Number) : (number x).Chains heap := by
  intro b c _ _ hab hbc
  cases b with
  | number y =>
    cases c with
    | number z =>
      rw [equals] at hab hbc ⊢
      exact Number.equals_trans hab hbc
    | _ => simp [equals] at hbc
  | _ => simp [equals] at hab

theorem chains_callable (identity : Identity) (name : String) :
    (callable identity name).Chains heap := by
  intro b c _ _ hab hbc
  cases b with
  | callable j other =>
    cases c with
    | callable k last =>
      rw [equals, beq_iff_eq] at hab hbc ⊢
      exact hab.trans hbc
    | _ => simp [equals] at hbc
  | _ => simp [equals] at hab

theorem chains_marker (identity : Identity) (mark : CharMarker) :
    (marker identity mark).Chains heap := by
  intro b c _ _ hab hbc
  cases b with
  | marker j other =>
    cases c with
    | marker k last =>
      rw [equals, beq_iff_eq] at hab hbc ⊢
      exact hab.trans hbc
    | _ => simp [equals] at hbc
  | _ => simp [equals] at hab

theorem chains_sequence {items : List Value} (hitems : ∀ item ∈ items, item.Chains heap) :
    (sequence items).Chains heap := by
  intro b c hb hc hab hbc
  cases b with
  | sequence ys =>
    cases c with
    | sequence zs =>
      rw [equals_sequence_iff] at hab hbc ⊢
      have hys := hb.items
      have hzs := hc.items
      clear hb hc
      induction hab generalizing zs with
      | nil =>
        cases hbc
        exact .nil
      | cons hxy _ ih =>
        cases hbc with
        | cons hyz hrest =>
          rw [List.forall_mem_cons] at hitems hys hzs
          exact .cons (hitems.1 _ _ hys.1 hzs.1 hxy hyz) (ih hitems.2 _ hrest hys.2 hzs.2)
    | _ => simp [equals] at hbc
  | _ => simp [equals] at hab

theorem chains_mapping {entries : List (String × Value)}
    (hentries : ∀ entry ∈ entries, entry.2.Chains heap) : (mapping entries).Chains heap := by
  intro b c hb hc hab hbc
  cases b with
  | mapping ys =>
    cases c with
    | mapping zs =>
      obtain ⟨hlength, hfind⟩ := equals_mapping_iff.1 hab
      obtain ⟨hlength', hfind'⟩ := equals_mapping_iff.1 hbc
      refine equals_mapping_iff.2 ⟨hlength.trans hlength', fun entry hentry => ?_⟩
      -- from the entry to its partner in the middle, and on to the partner of that one
      obtain ⟨y, hy, hxy⟩ := hfind entry hentry
      have hmem := Entries.mem_of_find? hy
      obtain ⟨z, hz, hyz⟩ := hfind' _ hmem
      have hz' := hc.entries _ (Entries.mem_of_find? hz)
      exact ⟨z, hz, hentries entry hentry y z (hb.entries _ hmem) hz' hxy hyz⟩
    | _ => simp [equals] at hbc
  | _ => simp [equals] at hab

/-- Being one object, or else alike, is transitive when being alike is, because one place holds one
object. -/
theorem same_or_alike_trans {β : Type} {R : β → β → Prop} {i j k : Identity} {x y z : β}
    (hxy : i = j → x = y) (hyz : j = k → y = z) (htrans : R x y → R y z → R x z)
    (h : i = j ∨ R x y) (h' : j = k ∨ R y z) : i = k ∨ R x z := by
  rcases h with hij | hR
  · obtain rfl := hxy hij
    exact h'.imp_left hij.trans
  · rcases h' with hjk | hR'
    · obtain rfl := hyz hjk
      exact .inr hR
    · exact .inr (htrans hR hR')

theorem equalContents_trans {x y z : Option Value} (hy : ∀ b, y = some b → b.Placed heap)
    (hz : ∀ c, z = some c → c.Placed heap) (hx : ∀ a, x = some a → a.Chains heap)
    (hxy : equalContents x y) (hyz : equalContents y z) : equalContents x z := by
  match x, y, z with
  | none, none, none => exact hxy
  | some a, some b, some c =>
    rw [equalContents] at hxy hyz ⊢
    exact hx a rfl b c (hy b rfl) (hz c rfl) hxy hyz
  | none, some b, _ => simp [equalContents] at hxy
  | some a, none, _ => simp [equalContents] at hxy
  | _, none, some c => simp [equalContents] at hyz
  | _, some b, none => simp [equalContents] at hyz

theorem chains_option {identity : Identity} {content : Option Value}
    (ha : Placed heap (.option identity content))
    (hcontent : ∀ value, content = some value → value.Chains heap) :
    (option identity content).Chains heap := by
  intro b c hb hc hab hbc
  cases b with
  | option j y =>
    cases c with
    | option k z =>
      rw [equals, Bool.or_eq_true, beq_iff_eq] at hab hbc ⊢
      exact same_or_alike_trans (R := fun x y => equalContents x y) (ha.content_eq hb)
        (hb.content_eq hc) (equalContents_trans hb.content hc.content hcontent) hab hbc
    | _ => simp [equals] at hbc
  | _ => simp [equals] at hab

theorem chains_sealed (htrans : heap.Transitive) {identity : Identity} {object : SealedObject}
    (ha : Placed heap (.sealed identity object)) : (Value.sealed identity object).Chains heap := by
  intro b c hb hc hab hbc
  cases b with
  | sealed j y =>
    cases c with
    | sealed k z =>
      rw [equals, Bool.or_eq_true, beq_iff_eq] at hab hbc ⊢
      have hobjects : object.alike y → y.alike z → object.alike z :=
        htrans _ _ _ (ha.made (.sealed identity)) (hb.made (.sealed j)) (hc.made (.sealed k))
      exact same_or_alike_trans (R := fun x y => x.alike y) (ha.object_eq hb) (hb.object_eq hc)
        hobjects hab hbc
    | _ => simp [equals] at hbc
  | _ => simp [equals] at hab

theorem Placed.chains (htrans : heap.Transitive) {a : Value} (ha : a.Placed heap) :
    a.Chains heap := by
  induction ha with
  | null => exact chains_of_eq fun b h => by cases b <;> simp_all [equals]
  | bool x => exact chains_of_eq fun b h => by cases b <;> simp_all [equals]
  | text s => exact chains_of_eq fun b h => by cases b <;> simp_all [equals]
  | number x => exact chains_number x
  | callable identity name => exact chains_callable identity name
  | marker identity mark => exact chains_marker identity mark
  | sequence _ ih => exact chains_sequence ih
  | mapping _ ih => exact chains_mapping ih
  | option hmade h ih => exact chains_option (.option hmade h) ih
  | sealed hmade => exact chains_sealed htrans (.sealed hmade)

/-- Equality is transitive for values whose objects are in their places. -/
theorem equals_trans (htrans : heap.Transitive) {a b c : Value} (ha : a.Placed heap)
    (hb : b.Placed heap) (hc : c.Placed heap) (hab : a.equals b) (hbc : b.equals c) : a.equals c :=
  ha.chains htrans b c hb hc hab hbc

/-! ## Equal values -/

/-- The value names no key twice, and its objects are in their places. -/
structure Sound (heap : Heap) (a : Value) : Prop where
  distinct : a.DistinctKeys
  placed : a.Placed heap

theorem Sound.item {items : List Value} (h : (sequence items).Sound heap) {item : Value}
    (hitem : item ∈ items) : item.Sound heap :=
  ⟨h.distinct.items item hitem, h.placed.items item hitem⟩

theorem Sound.entry {entries : List (String × Value)} (h : (mapping entries).Sound heap)
    {entry : String × Value} (hentry : entry ∈ entries) : entry.2.Sound heap :=
  ⟨h.distinct.entries entry hentry, h.placed.entries entry hentry⟩

theorem Sound.of_items {items : List Value} (h : ∀ item ∈ items, item.Sound heap) :
    (sequence items).Sound heap :=
  ⟨.sequence fun item hitem => (h item hitem).distinct,
    .sequence fun item hitem => (h item hitem).placed⟩

theorem Sound.filter {entries : List (String × Value)} (h : (mapping entries).Sound heap)
    (keep : String → Bool) : (mapping (entries.filter fun entry => keep entry.1)).Sound heap := by
  have hentry : ∀ entry ∈ entries.filter fun entry => keep entry.1, entry.2.Sound heap :=
    fun entry hmem => h.entry (List.mem_of_mem_filter hmem)
  refine ⟨.mapping ?_ fun entry hmem => (hentry entry hmem).distinct,
    .mapping fun entry hmem => (hentry entry hmem).placed⟩
  rw [Entries.keys_filter]
  exact h.distinct.nodup_keys.filter keep

/-- Equality is symmetric for sound values. -/
theorem Sound.equals_symm (hsymm : heap.Symmetric) {a b : Value} (ha : a.Sound heap)
    (hb : b.Sound heap) (h : a.equals b) : b.equals a :=
  Value.equals_symm ha.distinct
    (fun x y hx hy => hsymm x y (ha.placed.made hx) (hb.placed.made hy)) h

/-- Two sound values are equal. -/
structure Same (heap : Heap) (a b : Value) : Prop where
  left : a.Sound heap
  right : b.Sound heap
  equals : a.equals b

namespace Same

variable {a b : Value}

/-- A value that equals itself, with its objects in their places. -/
theorem refl (h : a.Regular) (hplaced : a.Placed heap) : Same heap a a :=
  ⟨⟨h.distinct, hplaced⟩, ⟨h.distinct, hplaced⟩, h.self⟩

/-- Equal values equal the same values, which takes symmetry besides transitivity. -/
theorem equals_right (hsymm : heap.Symmetric) (htrans : heap.Transitive) (h : Same heap a b)
    {c : Value} (hc : c.Placed heap) : a.equals c = b.equals c := by
  have hba := h.left.equals_symm hsymm h.right h.equals
  refine Bool.eq_iff_iff.2 ⟨fun hac => ?_, fun hbc => ?_⟩
  · exact equals_trans htrans h.right.placed h.left.placed hc hba hac
  · exact equals_trans htrans h.left.placed h.right.placed hc h.equals hbc

theorem kind_eq (h : Same heap a b) : a.kind = b.kind := by
  have hequals := h.equals
  fun_cases Value.equals a b with
  | case11 => simp [Value.equals] at hequals
  | _ => rfl

/-- Equal sequences have equal items. -/
theorem items {items others : List Value} (h : Same heap (sequence items) (sequence others)) :
    List.Forall₂ (Same heap) items others := by
  have hequals := equals_sequence_iff.1 h.equals
  refine List.forall₂_iff_get.2 ⟨hequals.length_eq, fun i hi hi' => ?_⟩
  have hitem := (List.forall₂_iff_get.1 hequals).2 i hi hi'
  exact ⟨h.left.item (List.get_mem _ _), h.right.item (List.get_mem _ _), hitem⟩

/-- Sequences of equal items are equal. -/
theorem of_items {items others : List Value} (h : List.Forall₂ (Same heap) items others) :
    Same heap (sequence items) (sequence others) := by
  have hleft := h.imp fun _ _ hab => And.intro hab.left hab.equals
  have hright := h.flip.imp fun _ _ hab => And.intro hab.right hab.equals
  exact {
    left := .of_items ((List.forall₂_and_left items others).1 hleft).1
    right := .of_items ((List.forall₂_and_left others items).1 hright).1
    equals := equals_sequence_iff.2 (h.imp fun _ _ hab => hab.equals) }

/-- Equal mappings have equal entries under every key, or none. -/
theorem entries {entries others : List (String × Value)}
    (h : Same heap (mapping entries) (mapping others)) (key : String) :
    Option.Rel (Same heap) (Entries.find? key entries) (Entries.find? key others) := by
  have hperm := keys_perm_of_equals h.left.distinct.nodup_keys h.equals
  cases hfound : Entries.find? key entries with
  | none =>
    have hkey : key ∉ Entries.keys others := by
      rw [← hperm.mem_iff, ← Entries.isSome_find?_iff, hfound]
      exact Bool.false_ne_true
    rw [← Entries.isSome_find?_iff, Option.not_isSome_iff_eq_none] at hkey
    rw [hkey]
    exact .none
  | some a =>
    have hentry := Entries.mem_of_find? hfound
    obtain ⟨b, hb, hab⟩ := (equals_mapping_iff.1 h.equals).2 _ hentry
    rw [hb]
    exact .some ⟨h.left.entry hentry, h.right.entry (Entries.mem_of_find? hb), hab⟩

/-- Equal mappings leave equal mappings when the same keys are kept. -/
theorem filter {entries others : List (String × Value)}
    (h : Same heap (mapping entries) (mapping others)) (keep : String → Bool) :
    Same heap (mapping (entries.filter fun entry => keep entry.1))
      (mapping (others.filter fun entry => keep entry.1)) := by
  have hperm := (keys_perm_of_equals h.left.distinct.nodup_keys h.equals).filter keep
  refine ⟨h.left.filter keep, h.right.filter keep, equals_mapping_iff.2 ⟨?_, ?_⟩⟩
  · rw [← Entries.length_keys, ← Entries.length_keys, Entries.keys_filter, Entries.keys_filter]
    exact hperm.length_eq
  · intro entry hentry
    obtain ⟨hmem, hkeep⟩ := List.mem_filter.1 hentry
    obtain ⟨b, hb, hab⟩ := (equals_mapping_iff.1 h.equals).2 entry hmem
    exact ⟨b, (Entries.find?_filter hkeep others).trans hb, hab⟩

end Same

end Value

end Destructure
