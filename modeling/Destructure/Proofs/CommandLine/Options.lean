import Mathlib.Data.List.Induction
import Destructure.CommandLine.Basic
import Destructure.Proofs.Entries
import Destructure.Proofs.Run
import Destructure.Proofs.Value.RoundTrip

set_option autoImplicit false

/-! # The options of an evaluation

The arguments of an evaluation are words, which go in pairs of a flag and its value (`EvalOptions.words`).
A pair is understood when its flag is known and its value can be read as the flag asks
(`EvalOptions.Understood`). Arguments are taken as long as their pairs are understood; the rest of them,
if any, begins with what is at fault (`EvalOptions.AtFault`). So reading succeeds exactly for pairs that
are all understood and among which there is a subject (`EvalOptions.parse_takesPairs`). -/

namespace Destructure.EvalOptions

/-- The words of flags with their values. -/
def words (pairs : List (String × String)) : List String :=
  pairs.flatMap fun pair => [pair.1, pair.2]

variable (reader : DataReader)

/-- The flag is known, and its value is data, which is an object where a scope is asked for. -/
inductive Understood : String × String → Prop where
  | subject {raw : String} {data : Json} (hdata : reader raw = .ok data) :
      Understood ("--subject", raw)
  | scope {raw : String} {entries : List (String × Json)}
      (hdata : reader raw = .ok (.object entries)) : Understood ("--scope", raw)

/-- The words begin with a pair that is not understood, and this is what is wrong with it. -/
inductive AtFault : List String → ArgumentError → Prop where
  | unexpected {flag : String} (rest : List String) (hsubject : flag ≠ "--subject")
      (hscope : flag ≠ "--scope") : AtFault (flag :: rest) (.unexpected flag)
  | missingValue {flag : String} (hflag : flag = "--subject" ∨ flag = "--scope") :
      AtFault [flag] (.missingValue flag)
  | invalidSubject {raw : String} {cause : Json.ReadError} (rest : List String)
      (hdata : reader raw = .error cause) :
      AtFault ("--subject" :: raw :: rest) (.invalidSubject raw cause)
  | invalidScope {raw : String} {cause : Json.ReadError} (rest : List String)
      (hdata : reader raw = .error cause) :
      AtFault ("--scope" :: raw :: rest) (.invalidScope raw (some cause))
  | scopeNotObject {raw : String} {data : Json} (rest : List String) (hdata : reader raw = .ok data)
      (hobject : ∀ entries, data ≠ .object entries) :
      AtFault ("--scope" :: raw :: rest) (.invalidScope raw none)

/-- The bindings that pairs give: those of the last scope, and none if there is no scope. -/
inductive GivesScope (pairs : List (String × String)) : Bindings → Prop where
  | none (hlast : Entries.last? "--scope" pairs = none) : GivesScope pairs .empty
  | last {raw : String} {entries : List (String × Json)}
      (hlast : Entries.last? "--scope" pairs = some raw)
      (hdata : reader raw = .ok (.object entries)) :
      GivesScope pairs (.ofList (Value.ofFields entries))

/-- The options that pairs give: the data of the last subject, and the bindings. -/
structure Gives (pairs : List (String × String)) (options : EvalOptions) : Prop where
  subject : ∃ raw, Entries.last? "--subject" pairs = some raw ∧ reader raw = .ok options.subject
  scope : GivesScope reader pairs options.scope
  /-- An object that names no key twice is bound entry for entry. -/
  inOrder : ∀ raw entries, Entries.last? "--scope" pairs = some raw →
    reader raw = .ok (.object entries) → (Entries.keys entries).Nodup →
    options.scope.entries = Value.ofFields entries

variable {reader} {pairs : List (String × String)} {args : List String} {e : ArgumentError}

/-! ## One pair -/

theorem understood_subject_iff {raw : String} :
    Understood reader ("--subject", raw) ↔ ∃ data, reader raw = .ok data := by
  refine ⟨fun h => ?_, fun ⟨_, hdata⟩ => .subject hdata⟩
  generalize hpair : ("--subject", raw) = pair at h
  cases h with
  | subject hdata =>
    obtain ⟨-, rfl⟩ := Prod.mk.inj hpair
    exact ⟨_, hdata⟩
  | scope hdata => exact absurd (congrArg Prod.fst hpair) (by simp)

theorem understood_scope_iff {raw : String} :
    Understood reader ("--scope", raw) ↔ ∃ entries, reader raw = .ok (.object entries) := by
  refine ⟨fun h => ?_, fun ⟨_, hdata⟩ => .scope hdata⟩
  generalize hpair : ("--scope", raw) = pair at h
  cases h with
  | subject hdata => exact absurd (congrArg Prod.fst hpair) (by simp)
  | scope hdata =>
    obtain ⟨-, rfl⟩ := Prod.mk.inj hpair
    exact ⟨_, hdata⟩

theorem parseAfter_subject {raw : String} {data : Json} (hdata : reader raw = .ok data)
    (subject : Option Json) (scope : Bindings) (rest : List String) :
    parseAfter reader subject scope ("--subject" :: raw :: rest)
      = parseAfter reader (some data) scope rest := by
  rw [parseAfter, if_pos rfl, readSubject, hdata]
  rfl

theorem readScope_of_object {raw : String} {entries : List (String × Json)}
    (hdata : reader raw = .ok (.object entries)) :
    readScope reader raw = .ok (.ofList (Value.ofFields entries)) := by
  rw [readScope, hdata]

theorem parseAfter_scope {raw : String} {entries : List (String × Json)}
    (hdata : reader raw = .ok (.object entries)) (subject : Option Json) (scope : Bindings)
    (rest : List String) :
    parseAfter reader subject scope ("--scope" :: raw :: rest)
      = parseAfter reader subject (.ofList (Value.ofFields entries)) rest := by
  rw [parseAfter, if_neg (by decide), if_pos rfl, readScope_of_object hdata]
  rfl

/-- What is at fault is reported, whatever was read before. -/
theorem AtFault.parseAfter (h : AtFault reader args e) (subject : Option Json) (scope : Bindings) :
    parseAfter reader subject scope args = .error e := by
  cases h with
  | @unexpected flag rest hsubject hscope =>
    cases rest with
    | nil => rw [EvalOptions.parseAfter, if_neg (not_or.2 ⟨hsubject, hscope⟩)]
    | cons raw rest => rw [EvalOptions.parseAfter, if_neg hsubject, if_neg hscope]
  | missingValue hflag => rw [EvalOptions.parseAfter, if_pos hflag]
  | invalidSubject rest hdata =>
    rw [EvalOptions.parseAfter, if_pos rfl, readSubject, hdata]
    rfl
  | invalidScope rest hdata =>
    rw [EvalOptions.parseAfter, if_neg (by decide), if_pos rfl, readScope, hdata]
    rfl
  | @scopeNotObject raw data rest hdata hobject =>
    have hscope : readScope reader raw = .error (.invalidScope raw none) := by
      rw [readScope, hdata]
      cases data with
      | object entries => exact absurd rfl (hobject entries)
      | _ => rfl
    rw [EvalOptions.parseAfter, if_neg (by decide), if_pos rfl, hscope]
    rfl

theorem understood_or_atFault (reader : DataReader) (flag raw : String) (rest : List String) :
    Understood reader (flag, raw) ∨ ∃ e, AtFault reader (flag :: raw :: rest) e := by
  by_cases hsubject : flag = "--subject"
  · subst hsubject
    cases hdata : reader raw with
    | ok data => exact .inl (.subject hdata)
    | error cause => exact .inr ⟨_, .invalidSubject rest hdata⟩
  by_cases hscope : flag = "--scope"
  · subst hscope
    cases hdata : reader raw with
    | error cause => exact .inr ⟨_, .invalidScope rest hdata⟩
    | ok data =>
      by_cases hobject : ∃ entries, data = .object entries
      · obtain ⟨entries, rfl⟩ := hobject
        exact .inl (.scope hdata)
      · exact .inr ⟨_, .scopeNotObject rest hdata (not_exists.1 hobject)⟩
  · exact .inr ⟨_, .unexpected (raw :: rest) hsubject hscope⟩

/-! ## Pairs -/

/-- Arguments are pairs that are understood, up to their end or up to what is at fault. -/
theorem exists_pairs (reader : DataReader) : ∀ args : List String,
    ∃ pairs rest, args = words pairs ++ rest ∧ (∀ pair ∈ pairs, Understood reader pair) ∧
      (rest = [] ∨ ∃ e, AtFault reader rest e)
  | [] => ⟨[], [], rfl, List.forall_mem_nil _, .inl rfl⟩
  | [flag] => by
    refine ⟨[], [flag], rfl, List.forall_mem_nil _, .inr ?_⟩
    by_cases hflag : flag = "--subject" ∨ flag = "--scope"
    · exact ⟨_, .missingValue hflag⟩
    · obtain ⟨hsubject, hscope⟩ := not_or.1 hflag
      exact ⟨_, .unexpected [] hsubject hscope⟩
  | flag :: raw :: args => by
    rcases understood_or_atFault reader flag raw args with hpair | hfault
    · obtain ⟨pairs, rest, rfl, hpairs, hrest⟩ := exists_pairs reader args
      exact ⟨(flag, raw) :: pairs, rest, rfl, List.forall_mem_cons.2 ⟨hpair, hpairs⟩, hrest⟩
    · exact ⟨[], _, rfl, List.forall_mem_nil _, .inr hfault⟩

/-- The data of the last subject. -/
def subject? (reader : DataReader) (pairs : List (String × String)) : Option Json :=
  (Entries.last? "--subject" pairs).bind fun raw => (reader raw).toOption

/-- The bindings of the last scope. -/
def scope? (reader : DataReader) (pairs : List (String × String)) : Option Bindings :=
  (Entries.last? "--scope" pairs).bind fun raw => (readScope reader raw).toOption

/-- Pairs that are understood are read, and of them only the last subject and the last scope are
kept. -/
theorem parseAfter_words (h : ∀ pair ∈ pairs, Understood reader pair) (subject : Option Json)
    (scope : Bindings) (rest : List String) :
    parseAfter reader subject scope (words pairs ++ rest)
      = parseAfter reader ((subject? reader pairs).or subject)
          ((scope? reader pairs).getD scope) rest := by
  -- from the end, because the pair that comes last is the one that counts
  induction pairs using List.reverseRecOn generalizing rest with
  | nil => rfl
  | append_singleton pairs pair ih =>
    rw [List.forall_mem_append, List.forall_mem_singleton] at h
    obtain ⟨hpairs, hpair⟩ := h
    have hwords : words (pairs ++ [pair]) ++ rest = words pairs ++ pair.1 :: pair.2 :: rest := by
      simp [words]
    rw [hwords, ih hpairs]
    cases hpair with
    | subject hdata =>
      rw [parseAfter_subject hdata]
      simp [subject?, scope?, Entries.last?_concat, hdata, Except.toOption]
    | scope hdata =>
      rw [parseAfter_scope hdata]
      simp [subject?, scope?, Entries.last?_concat, readScope_of_object hdata, Except.toOption]

/-! ## Whole argument lists -/

/-- Pairs that are understood make options, unless there is no subject among them. -/
theorem parse_words (h : ∀ pair ∈ pairs, Understood reader pair) :
    parse reader (words pairs) = match subject? reader pairs with
      | some subject => .ok ⟨subject, (scope? reader pairs).getD .empty⟩
      | none => .error .missingSubject := by
  have hread := parseAfter_words h none .empty []
  rw [List.append_nil, Option.or_none] at hread
  rw [parse, hread]
  cases subject? reader pairs <;> rfl

/-- There is a last subject when there is a subject at all. -/
theorem isSome_subject?_iff (h : ∀ pair ∈ pairs, Understood reader pair) :
    (subject? reader pairs).isSome ↔ "--subject" ∈ Entries.keys pairs := by
  rw [← Entries.isSome_last?_iff, subject?]
  cases hlast : Entries.last? "--subject" pairs with
  | none => rfl
  | some raw =>
    obtain ⟨data, hdata⟩ := understood_subject_iff.1 (h _ (Entries.mem_of_last? hlast))
    rw [Option.bind_some, hdata]
    rfl

theorem subject?_eq_some_iff {data : Json} :
    subject? reader pairs = some data ↔
      ∃ raw, Entries.last? "--subject" pairs = some raw ∧ reader raw = .ok data := by
  rw [subject?, Option.bind_eq_some_iff]
  refine exists_congr fun raw => and_congr_right fun _ => ?_
  cases reader raw <;> simp [Except.toOption]

theorem givesScope_iff (h : ∀ pair ∈ pairs, Understood reader pair) {scope : Bindings} :
    GivesScope reader pairs scope ↔ scope = (scope? reader pairs).getD .empty := by
  have hgives : GivesScope reader pairs ((scope? reader pairs).getD .empty) := by
    cases hlast : Entries.last? "--scope" pairs with
    | none =>
      rw [scope?, hlast]
      exact .none hlast
    | some raw =>
      obtain ⟨entries, hdata⟩ := understood_scope_iff.1 (h _ (Entries.mem_of_last? hlast))
      rw [scope?, hlast, Option.bind_some, readScope_of_object hdata]
      exact .last hlast hdata
  refine ⟨fun hscope => ?_, fun heq => heq ▸ hgives⟩
  cases hscope with
  | none hlast => rw [scope?, hlast, Option.bind_none, Option.getD_none]
  | last hlast hdata =>
    rw [scope?, hlast, Option.bind_some, readScope_of_object hdata]
    rfl

/-- Entries with distinct keys are bound in their order. -/
theorem GivesScope.inOrder {scope : Bindings} (h : GivesScope reader pairs scope) {raw : String}
    {entries : List (String × Json)} (hlast : Entries.last? "--scope" pairs = some raw)
    (hdata : reader raw = .ok (.object entries)) (hnodup : (Entries.keys entries).Nodup) :
    scope.entries = Value.ofFields entries := by
  cases h with
  | none hnone => cases hnone.symm.trans hlast
  | last hlast' hdata' =>
    obtain rfl := Option.some.inj (hlast.symm.trans hlast')
    obtain rfl := Json.object.inj (Except.ok.inj (hdata.symm.trans hdata'))
    refine Entries.ofList_eq_self ?_
    rwa [Value.ofFields_eq_map, Entries.keys_map]

/-- The reader of the program settles repeated keys, so it reads objects with distinct keys only. -/
theorem nodup_keys_of_readSettled {dialect : Json.Dialect} {raw : String}
    {entries : List (String × Json)} (h : Json.readSettled dialect raw = .ok (.object entries)) :
    (Entries.keys entries).Nodup := by
  obtain ⟨data, -, hsettled⟩ := map_eq_ok.1 h
  cases data with
  | object read =>
    obtain rfl := Json.object.inj hsettled
    exact Entries.nodup_keys_ofList _
  | _ => cases hsettled

/-- The program binds the last scope entry for entry. -/
theorem Gives.scope_entries {dialect : Json.Dialect} {options : EvalOptions}
    (h : Gives (Json.readSettled dialect) pairs options) {raw : String}
    {entries : List (String × Json)} (hlast : Entries.last? "--scope" pairs = some raw)
    (hdata : Json.readSettled dialect raw = .ok (.object entries)) :
    options.scope.entries = Value.ofFields entries :=
  h.inOrder raw entries hlast hdata (nodup_keys_of_readSettled hdata)

theorem parse_words_eq_ok (h : ∀ pair ∈ pairs, Understood reader pair) {options : EvalOptions} :
    parse reader (words pairs) = .ok options ↔ Gives reader pairs options := by
  have hgives : Gives reader pairs options ↔
      subject? reader pairs = some options.subject ∧
        options.scope = (scope? reader pairs).getD .empty := by
    rw [subject?_eq_some_iff, ← givesScope_iff h]
    exact ⟨fun hgives => ⟨hgives.subject, hgives.scope⟩, fun ⟨hsubject, hscope⟩ =>
      ⟨hsubject, hscope, fun _ _ => hscope.inOrder⟩⟩
  obtain ⟨data, scope⟩ := options
  rw [parse_words h, hgives]
  cases subject? reader pairs with
  | none => simp
  | some subject => simp [eq_comm]

theorem parse_words_eq_error (h : ∀ pair ∈ pairs, Understood reader pair) :
    parse reader (words pairs) = .error e ↔
      "--subject" ∉ Entries.keys pairs ∧ e = .missingSubject := by
  rw [parse_words h, ← isSome_subject?_iff h]
  cases subject? reader pairs <;> simp [eq_comm]

theorem AtFault.parse_words (h : ∀ pair ∈ pairs, Understood reader pair) {rest : List String}
    (hrest : AtFault reader rest e) : parse reader (words pairs ++ rest) = .error e := by
  rw [parse, parseAfter_words h, hrest.parseAfter]

/-- The options of an evaluation are read from its arguments pair by pair.

* There are options exactly when the arguments are pairs that are all understood, one of them at least
  with a subject.
* These are the data of the last subject and the bindings of the last scope.
* The error is that of the first pair that is not understood, and only when all are understood it is that
  there is no subject. -/
theorem parse_takesPairs (reader : DataReader) (args : List String) :
    ((∃ options, parse reader args = .ok options) ↔
      ∃ pairs, args = words pairs ∧ (∀ pair ∈ pairs, Understood reader pair) ∧
        "--subject" ∈ Entries.keys pairs) ∧
    (∀ pairs, args = words pairs → (∀ pair ∈ pairs, Understood reader pair) →
      ∀ options, parse reader args = .ok options ↔ Gives reader pairs options) ∧
    ∀ e, parse reader args = .error e ↔
      ∃ pairs rest, args = words pairs ++ rest ∧ (∀ pair ∈ pairs, Understood reader pair) ∧
        (AtFault reader rest e ∨
          rest = [] ∧ "--subject" ∉ Entries.keys pairs ∧ e = .missingSubject) := by
  refine ⟨⟨?_, ?_⟩, ?_, fun e => ⟨fun he => ?_, ?_⟩⟩
  · rintro ⟨options, hparse⟩
    obtain ⟨pairs, rest, rfl, hpairs, rfl | ⟨e, hrest⟩⟩ := exists_pairs reader args
    · rw [List.append_nil] at hparse ⊢
      refine ⟨pairs, rfl, hpairs, ?_⟩
      by_contra hsubject
      cases hparse.symm.trans ((parse_words_eq_error hpairs).2 ⟨hsubject, rfl⟩)
    · cases hparse.symm.trans (hrest.parse_words hpairs)
  · rintro ⟨pairs, rfl, hpairs, hsubject⟩
    cases hparse : parse reader (words pairs) with
    | ok options => exact ⟨options, rfl⟩
    | error e => exact absurd hsubject ((parse_words_eq_error hpairs).1 hparse).1
  · rintro pairs rfl hpairs options
    exact parse_words_eq_ok hpairs
  · obtain ⟨pairs, rest, rfl, hpairs, rfl | ⟨e', hrest⟩⟩ := exists_pairs reader args
    · rw [List.append_nil] at he
      exact ⟨pairs, [], rfl, hpairs, .inr ⟨rfl, (parse_words_eq_error hpairs).1 he⟩⟩
    · obtain rfl := Except.error.inj (he.symm.trans (hrest.parse_words hpairs))
      exact ⟨pairs, rest, rfl, hpairs, .inl hrest⟩
  · rintro ⟨pairs, rest, rfl, hpairs, hrest | ⟨rfl, herror⟩⟩
    · exact hrest.parse_words hpairs
    · rw [List.append_nil]
      exact (parse_words_eq_error hpairs).2 herror

/-- Reads a few texts, and nothing that begins with a dash. -/
def fewTexts : DataReader
  | "[]" => .ok (.array [])
  | "\"--scope\"" => .ok (.text "--scope")
  | "\x7b\"b\":null,\"a\":true\x7d" => .ok (.object [("b", .null), ("a", .bool true)])
  | _ => .error (.unexpected '-')

/-- Two subjects, of which the last one is a flag in quotes, around a scope. -/
def flagInQuotes : List (String × String) :=
  [("--subject", "[]"), ("--scope", "\x7b\"b\":null,\"a\":true\x7d"), ("--subject", "\"--scope\"")]

theorem understood_flagInQuotes : ∀ pair ∈ flagInQuotes, Understood fewTexts pair := by
  simp only [flagInQuotes, List.forall_mem_cons, List.not_mem_nil, false_imp_iff, implies_true,
    and_true]
  exact ⟨.subject rfl, .scope rfl, .subject rfl⟩

theorem parse_takesPairs_flagInQuotes :
    (∃ options, parse fewTexts (words flagInQuotes) = .ok options ∧
      options.subject = .text "--scope" ∧ options.scope.names = ["b", "a"]) ∧
    parse fewTexts (words flagInQuotes ++ ["--scope", "--subject", "--other"])
      = .error (.invalidScope "--subject" (some (.unexpected '-'))) := by
  obtain ⟨hok, hgives, -⟩ := parse_takesPairs fewTexts (words flagInQuotes)
  obtain ⟨options, hparse⟩ := hok.2 ⟨flagInQuotes, rfl, understood_flagInQuotes, by decide⟩
  obtain ⟨⟨raw, hlast, hraw⟩, -, hinOrder⟩ :=
    (hgives flagInQuotes rfl understood_flagInQuotes options).1 hparse
  constructor
  · obtain rfl := Option.some.inj hlast
    refine ⟨options, hparse, (Except.ok.inj hraw).symm, ?_⟩
    have hentries := hinOrder _ _ rfl rfl (by decide)
    rw [Bindings.names, hentries]
    rfl
  · refine ((parse_takesPairs fewTexts _).2.2 _).2
      ⟨flagInQuotes, _, rfl, understood_flagInQuotes, .inl ?_⟩
    exact .invalidScope ["--other"] rfl

end Destructure.EvalOptions
