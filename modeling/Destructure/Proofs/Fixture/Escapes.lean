import Destructure.Fixture.Decode
import Destructure.Proofs.Registry.FirstFailure
import Destructure.Proofs.Value.RoundTrip

set_option autoImplicit false

/-! # Escapes in fixtures

An escape is an object whose only key starts with a dollar sign. Decoding looks into the items of
arrays, the values of other objects, and the contents of optional values, and into no other payload of
an escape (`Json.reached`). It fails with the first escape that it comes to and that has no meaning
(`Escape.fault?`). If there is none, it gives the value that the data denotes (`Value.Denotes`), and for
data without escapes that is the value of plain data (`Value.decode_firstFault`). -/

namespace Destructure

/-! ## What is looked into -/

namespace Json

/-- The key and the payload of an escape. -/
def escape? : Json → Option (String × Json)
  | .object [(key, payload)] =>
    if key.toList.head? = some '$' then some (key, payload) else none
  | _ => none

/-- The trees directly below a tree. -/
def children : Json → List Json
  | .array items => items
  | .object entries => entries.map (·.2)
  | .null | .bool _ | .int _ | .float _ | .text _ => []

/-- The trees that decoding goes on with: of an escape the content of an optional value only, and of
any other tree all that is directly below it. -/
def next (tree : Json) : List Json :=
  match tree.escape? with
  | some (key, payload) => if key = "$some" then [payload] else []
  | none => tree.children

theorem eq_object_of_escape? {tree payload : Json} {key : String}
    (h : tree.escape? = some (key, payload)) :
    tree = .object [(key, payload)] ∧ key.toList.head? = some '$' := by
  unfold escape? at h
  split at h
  · split at h
    · next hmark =>
      obtain ⟨rfl, rfl⟩ := Prod.mk.inj (Option.some.inj h)
      exact ⟨rfl, hmark⟩
    · cases h
  · cases h

theorem sizeOf_lt_of_mem_children {tree t : Json} (h : t ∈ tree.children) :
    sizeOf t < sizeOf tree := by
  cases tree with
  | array items =>
    have hlt : sizeOf t < sizeOf items := List.sizeOf_lt_of_mem h
    simp only [array.sizeOf_spec]
    omega
  | object entries =>
    obtain ⟨⟨key, t⟩, hmem, rfl⟩ := List.mem_map.1 h
    have hlt := List.sizeOf_lt_of_mem hmem
    simp only [object.sizeOf_spec, Prod.mk.sizeOf_spec] at hlt ⊢
    omega
  | _ => cases h

theorem mem_children_of_mem_next {tree t : Json} (h : t ∈ tree.next) : t ∈ tree.children := by
  unfold next at h
  split at h
  · next key payload hescape =>
    obtain ⟨rfl, -⟩ := eq_object_of_escape? hescape
    split at h
    · exact h
    · cases h
  · exact h

/-- A tree is taken apart into the trees that decoding goes on with. -/
def branching : Branching Json :=
  ⟨next, fun h => sizeOf_lt_of_mem_children (mem_children_of_mem_next h)⟩

/-- All trees that decoding comes to, each one before those below it and these from left to right. -/
def reached (tree : Json) : List Json := branching.nodes tree

theorem reached_eq (tree : Json) : tree.reached = tree :: tree.next.flatMap reached :=
  branching.nodes_eq tree

theorem next_of_plain {tree : Json} (h : tree.escape? = none) : tree.next = tree.children := by
  rw [next, h]

end Json

/-! ## The meaning of escapes -/

namespace Escape

/-- What is wrong with the payload of a constant: it is no text, or not registered. -/
def constantFault? (r : Registry) : Json → Option EscapeError
  | .text name => if (r.constants.find? name).isSome then none else some (.unknownConstant name)
  | payload => some (.malformed payload)

/-- What is wrong with a tree itself: it is an escape that names no constant, or of an unknown form. -/
def fault? (r : Registry) (tree : Json) : Option EscapeError :=
  match tree.escape? with
  | none => none
  | some (key, payload) =>
    if key = "$some" ∨ key = "$none" then none
    else if key = "$const" then constantFault? r payload
    else some (.malformed tree)

end Escape

/-- All that is wrong with a tree, in the order in which decoding comes to it. -/
def Json.faults (r : Registry) (tree : Json) : List EscapeError :=
  tree.reached.filterMap (Escape.fault? r)

theorem Json.faults_eq (r : Registry) (tree : Json) :
    tree.faults r = (Escape.fault? r tree).toList ++ tree.next.flatMap (faults r) := by
  rw [faults, reached_eq, List.filterMap_cons, List.filterMap_flatMap]
  cases Escape.fault? r tree <;> rfl

namespace Value

/-- The value that data stands for: every escape in it for what it denotes, and everything else for
itself, with the same items or the same keys in the same order. -/
inductive Denotes (r : Registry) : Json → Value → Prop
  | scalar {tree : Json} (h : tree.children = []) : Denotes r tree (ofJson tree)
  | array {items : List Json} {values : List Value} (h : List.Forall₂ (Denotes r) items values) :
    Denotes r (.array items) (.sequence values)
  | object {entries : List (String × Json)} {values : List (String × Value)}
    (hplain : (Json.object entries).escape? = none) (hkeys : Entries.keys values = Entries.keys entries)
    (h : List.Forall₂ (Denotes r) (entries.map (·.2)) (values.map (·.2))) :
    Denotes r (.object entries) (.mapping values)
  | some {payload : Json} {content : Value} {identity : Identity} (h : Denotes r payload content) :
    Denotes r (.object [("$some", payload)]) (.option identity (some content))
  | none {payload : Json} {identity : Identity} :
    Denotes r (.object [("$none", payload)]) (.option identity none)
  | const {name : String} {value : Value} (h : r.constants.find? name = some value) :
    Denotes r (.object [("$const", .text name)]) value

/-! ## Lists of data -/

variable {r : Registry}

theorem decodes_items {items : List Json}
    (h : ∀ t ∈ items, ∀ place, FailsOr (decode r place t) (t.faults r) (Denotes r t))
    (place : Identity) (index : Nat) :
    FailsOr (decodeItems r place index items) (items.flatMap (Json.faults r))
      (List.Forall₂ (Denotes r) items) := by
  induction items generalizing index with
  | nil => exact .ok .nil
  | cons item rest ih =>
    rw [List.forall_mem_cons] at h
    rw [decodeItems, List.flatMap_cons]
    refine (h.1 (index :: place)).bind fun value hvalue => ?_
    exact (ih h.2 (index + 1)).map fun values hvalues => .cons hvalue hvalues

theorem decodes_entries {entries : List (String × Json)}
    (h : ∀ t ∈ entries.map (·.2), ∀ place,
      FailsOr (decode r place t) (t.faults r) (Denotes r t))
    (place : Identity) (index : Nat) :
    FailsOr (decodeEntries r place index entries) ((entries.map (·.2)).flatMap (Json.faults r))
      fun values => Entries.keys values = Entries.keys entries ∧
        List.Forall₂ (Denotes r) (entries.map (·.2)) (values.map (·.2)) := by
  induction entries generalizing index with
  | nil => exact .ok ⟨rfl, .nil⟩
  | cons entry rest ih =>
    obtain ⟨key, payload⟩ := entry
    rw [List.map_cons, List.forall_mem_cons] at h
    rw [decodeEntries, List.map_cons, List.flatMap_cons]
    refine (h.1 (index :: place)).bind fun value hvalue => ?_
    refine (ih h.2 (index + 1)).map fun values hvalues => ⟨?_, .cons hvalue hvalues.2⟩
    exact congrArg (key :: ·) hvalues.1

/-! ## The ways to decode a tree -/

theorem isMark_iff {key : String} : Escape.isMark key ↔ key.toList.head? = some '$' := by
  rw [Escape.isMark, String.startsWith_string_iff]
  cases key.toList <;> simp [eq_comm]

/-- An object that is no escape is decoded entry by entry. -/
theorem decode_object {entries : List (String × Json)}
    (h : (Json.object entries).escape? = none) (place : Identity) :
    decode r place (.object entries) = .mapping <$> decodeEntries r place 0 entries := by
  match entries with
  | [] => rw [decode]; nofun
  | [(key, payload)] =>
    have hmark : ¬ Escape.isMark key := by
      rw [isMark_iff]
      intro hmark
      rw [Json.escape?, if_pos hmark] at h
      cases h
    rw [decode, if_neg hmark, decodeEntries, decodeEntries]
    cases decode r (0 :: place) payload <;> rfl
  | first :: second :: rest => rw [decode]; nofun

/-- The payload of an escape is decoded by its key. -/
theorem decode_escape {key : String} (h : key.toList.head? = some '$') (payload : Json)
    (place : Identity) :
    decode r place (.object [(key, payload)]) = match Escape.mark key with
      | .some => (fun content => option place (some content)) <$> decode r (0 :: place) payload
      | .none => .ok (.option place none)
      | .const => Escape.constant r payload
      | .other => .error (.malformed (.object [(key, payload)])) := by
  rw [decode]
  exact if_pos (isMark_iff.2 h)

/-- A constant is the registered one of the name in the payload. -/
theorem decodes_constant (payload : Json) :
    FailsOr (Escape.constant r payload) (Escape.constantFault? r payload).toList
      (Denotes r (.object [("$const", payload)])) := by
  cases payload with
  | text name =>
    rw [Escape.constant, Escape.constantFault?]
    cases hfind : r.constants.find? name with
    | none => exact .error _
    | some value => exact .ok (Denotes.const hfind)
  | _ => exact .error _

theorem decodes_escape {tree payload : Json} {key : String}
    (hescape : tree.escape? = some (key, payload))
    (h : ∀ t ∈ tree.next, ∀ place, FailsOr (decode r place t) (t.faults r) (Denotes r t))
    (place : Identity) :
    FailsOr (decode r place tree)
      ((Escape.fault? r tree).toList ++ tree.next.flatMap (Json.faults r)) (Denotes r tree) := by
  obtain ⟨rfl, hmark⟩ := Json.eq_object_of_escape? hescape
  rw [decode_escape hmark, Escape.mark]
  rw [Json.next, hescape] at h ⊢
  dsimp only at h ⊢
  by_cases hsome : key = "$some"
  · subst hsome
    rw [if_pos rfl] at h ⊢
    have hcontent := h payload (List.mem_singleton_self payload) (0 :: place)
    rw [if_pos rfl, List.flatMap_singleton]
    exact hcontent.map fun content hdenotes => .some hdenotes
  · rw [if_neg hsome, if_neg hsome, List.flatMap_nil, List.append_nil]
    by_cases hnone : key = "$none"
    · subst hnone
      exact .ok .none
    · rw [if_neg hnone]
      by_cases hconst : key = "$const"
      · subst hconst
        exact decodes_constant payload
      · have hfault : Escape.fault? r (.object [(key, payload)])
            = some (.malformed (.object [(key, payload)])) := by
          rw [Escape.fault?, hescape]
          simp only [hsome, hnone, hconst, or_self, if_false]
        rw [if_neg hconst, hfault]
        exact .error _

theorem decodes_plain {tree : Json} (hplain : tree.escape? = none)
    (h : ∀ t ∈ tree.children, ∀ place, FailsOr (decode r place t) (t.faults r) (Denotes r t))
    (place : Identity) :
    FailsOr (decode r place tree) (tree.children.flatMap (Json.faults r)) (Denotes r tree) := by
  cases tree with
  | array items =>
    rw [decode]
    exact (decodes_items h place 0).map fun _ => .array
  | object entries =>
    rw [decode_object hplain]
    exact (decodes_entries h place 0).map fun _ hvalues => .object hplain hvalues.1 hvalues.2
  | null | bool b | int n | float x | text s =>
    rw [decode]
    exact .ok (.scalar rfl)

/-- Decoding fails with the first fault, and what it gives otherwise is what the data denotes. -/
theorem decodes (tree : Json) (place : Identity) :
    FailsOr (decode r place tree) (tree.faults r) (Denotes r tree) := by
  induction tree using Json.branching.induction generalizing place with
  | node tree ih =>
    rw [Json.faults_eq]
    cases hescape : tree.escape? with
    | some escape => exact decodes_escape hescape ih place
    | none =>
      have hfault : Escape.fault? r tree = none := by rw [Escape.fault?, hescape]
      have hnext : tree.next = tree.children := Json.next_of_plain hescape
      rw [hfault, hnext]
      exact decodes_plain hescape (hnext ▸ ih) place

/-! ## Data without escapes -/

theorem eq_map_of_denotes {trees : List Json} {values : List Value}
    (hplain : ∀ t ∈ trees, ∀ v, Denotes r t v → v = ofJson t)
    (h : List.Forall₂ (Denotes r) trees values) : values = trees.map ofJson := by
  induction h with
  | nil => rfl
  | cons hdenotes _ ih =>
    rw [List.forall_mem_cons] at hplain
    rw [List.map_cons, ← hplain.1 _ hdenotes, ← ih hplain.2]

/-- Data in which there is no escape denotes the value of plain data. -/
theorem eq_ofJson_of_denotes {tree : Json} (hplain : ∀ node ∈ tree.reached, node.escape? = none)
    {value : Value} (h : Denotes r tree value) : value = ofJson tree := by
  induction tree using Json.branching.induction generalizing value with
  | node tree ih =>
    rw [Json.reached_eq, List.forall_mem_cons, List.forall_mem_flatMap] at hplain
    obtain ⟨hroot, hbelow⟩ := hplain
    have hchildren : ∀ t ∈ tree.children, ∀ v, Denotes r t v → v = ofJson t := by
      rw [← Json.next_of_plain hroot]
      exact fun t ht v hv => ih t ht (hbelow t ht) hv
    cases h with
    | scalar => rfl
    | array h => rw [ofJson, ofItems_eq_map, eq_map_of_denotes hchildren h, Json.children]
    | object _ hkeys h =>
      -- a list of pairs is made up of its keys and its contents
      have hvalues := List.zip_of_prod hkeys (eq_map_of_denotes hchildren h)
      rw [ofJson, ofFields_eq_map, hvalues]
      refine congrArg _ (List.zip_of_prod ?_ ?_).symm
      · rw [Entries.keys, List.map_map]
        rfl
      · rw [List.map_map, Json.children, List.map_map]
        rfl
    | some => cases hroot
    | none => cases hroot
    | const => cases hroot

/-- Decoding data of a fixture fails exactly when it comes to an escape without a meaning, and then for
the first one of these. Otherwise it gives what the data denotes; for data without escapes it cannot
fail, and that is the value of plain data. -/
theorem decode_firstFault (r : Registry) (place : Identity) (tree : Json) :
    (∀ e, decode r place tree = .error e ↔ tree.reached.findSome? (Escape.fault? r) = some e) ∧
      (∀ value, decode r place tree = .ok value → Denotes r tree value) ∧
      ((∀ node ∈ tree.reached, node.escape? = none) →
        decode r place tree = .ok (ofJson tree)) := by
  have hdecodes := decodes tree place (r := r)
  refine ⟨fun e => ?_, hdecodes.holds, fun hplain => ?_⟩
  · rw [hdecodes.fails e, Json.faults, List.head?_filterMap]
  · have hfaults : tree.faults r = [] := by
      refine List.filterMap_eq_nil_iff.2 fun node hnode => ?_
      rw [Escape.fault?, hplain node hnode]
    obtain ⟨value, hvalue⟩ := hdecodes.fails.exists_ok_iff.2 hfaults
    rw [hvalue, eq_ofJson_of_denotes hplain (hdecodes.holds value hvalue)]

/-- An optional value of two items, one of which is an optional value without a content. -/
def nestedEscapes : Json :=
  .object [("first", .object [("$some", .array [.null, .object [("$none", .object [("$x", .null)])]])]),
    ("second", .object [("$const", .text "LF")])]

/-- The same between two escapes without a meaning. -/
def faultyEscapes : Json :=
  .array [.object [("$some", .object [("$const", .bool true)])], nestedEscapes,
    .object [("$other", .null)]]

theorem decode_firstFault_nestedEscapes :
    (∃ value, decode Domain.registry [] nestedEscapes = .ok value ∧
      Denotes Domain.registry nestedEscapes value) ∧
    decode Domain.registry [] faultyEscapes = .error (.malformed (.bool true)) ∧
    decode Domain.registry [] (.object [("$a", .null), ("$b", .text "LF")])
      = .ok (ofJson (.object [("$a", .null), ("$b", .text "LF")])) := by
  have hreached : (Json.object [("$a", .null), ("$b", .text "LF")]).reached
      = [.object [("$a", .null), ("$b", .text "LF")], .null, .text "LF"] := by
    simp [Json.reached_eq, Json.next, Json.escape?, Json.children]
  have hfault : faultyEscapes.reached.findSome? (Escape.fault? Domain.registry)
      = some (.malformed (.bool true)) := by
    simp [faultyEscapes, nestedEscapes, Json.reached_eq, Json.next, Json.escape?, Json.children,
      List.findSome?_cons, Escape.fault?, Escape.constantFault?]
  have hdecodes : (decode Domain.registry [] nestedEscapes).toOption.isSome := by decide +kernel
  obtain ⟨value, hvalue⟩ := exists_eq_ok hdecodes
  refine ⟨⟨_, hvalue, (decode_firstFault _ _ _).2.1 _ hvalue⟩,
    ((decode_firstFault _ _ _).1 _).2 hfault, (decode_firstFault _ _ _).2.2 ?_⟩
  rw [hreached]
  simp [Json.escape?]

end Value

end Destructure
