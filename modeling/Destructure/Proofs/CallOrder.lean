import Mathlib.Data.List.Flatten
import Mathlib.Data.List.Nodup
import Destructure.Proofs.Run

set_option autoImplicit false

/-! # Order and end of calls

Patterns and guards are walked alike: from left to right, a node before its children, and only up to
the first child that decides. This file has what both walks need. `upTo` keeps the elements of a list
up to the first decisive one, sites that a walk meets ascend lexicographically
(`pairwise_lex_flatMap`), which numbers the calls that are made at them (`pairwise_number`), and
`Run.StopsAt` says that a run ends with the first call that fails. -/

namespace Destructure

/-! ## Up to the first decisive element -/

section UpTo

variable {α : Type}

/-- The elements up to the first one after which the others are left. -/
def upTo (goesOn : α → Bool) : List α → List α
  | [] => []
  | a :: rest => if goesOn a then a :: upTo goesOn rest else [a]

@[simp] theorem upTo_singleton (goesOn : α → Bool) (a : α) : upTo goesOn [a] = [a] := by
  simp [upTo]

theorem prefix_upTo (goesOn : α → Bool) (l : List α) : upTo goesOn l <+: l := by
  induction l with
  | nil => exact List.prefix_refl _
  | cons a rest ih =>
    rw [upTo]
    split
    · exact (List.prefix_cons_inj a).2 ih
    · exact List.prefix_append [a] rest

/-- An element is kept if the ones before it go on. -/
theorem mem_upTo_zipIdx {goesOn : α → Bool} {l : List α} {start i : Nat} {a : α} :
    (a, start + i) ∈ upTo (fun entry => goesOn entry.1) (l.zipIdx start) ↔
      l[i]? = some a ∧ ∀ b ∈ l.take i, goesOn b := by
  induction l generalizing start i with
  | nil => simp [upTo]
  | cons first rest ih =>
    have hlater : (a, start) ∉ upTo (fun entry => goesOn entry.1) (rest.zipIdx (start + 1)) := by
      intro hmem
      have hle := List.le_snd_of_mem_zipIdx ((prefix_upTo _ _).subset hmem)
      exact absurd hle (Nat.not_succ_le_self start)
    rw [List.zipIdx_cons, upTo]
    cases i with
    | zero => by_cases hfirst : goesOn first <;> simp [hfirst, hlater, @eq_comm _ a first]
    | succ i =>
      rw [List.getElem?_cons_succ, List.take_succ_cons, List.forall_mem_cons]
      have hrest := @ih (start + 1) i
      rw [show start + 1 + i = start + (i + 1) by omega] at hrest
      by_cases hfirst : goesOn first <;> simp [hfirst, hrest]

end UpTo

/-! ## Sites in order -/

/-- Sites below children ascend if the children do and the sites below each of them. -/
theorem pairwise_lex_flatMap {α : Type} {children : List α} {index : α → Nat}
    {sites : α → List Site} (hindex : children.Pairwise fun a b => index a < index b)
    (hsites : ∀ c ∈ children, (sites c).Pairwise (List.Lex (· < ·))) :
    (children.flatMap fun c => (sites c).map (index c :: ·)).Pairwise (List.Lex (· < ·)) := by
  rw [List.pairwise_flatMap]
  refine ⟨fun c hc => ?_, hindex.imp fun {a b} hlt s hs t ht => ?_⟩
  · rw [List.pairwise_map]
    exact (hsites c hc).imp fun h => .cons h
  · obtain ⟨s, -, rfl⟩ := List.mem_map.1 hs
    obtain ⟨t, -, rfl⟩ := List.mem_map.1 ht
    exact .rel hlt

theorem nodup_of_pairwise_lex {sites : List Site} (h : sites.Pairwise (List.Lex (· < ·))) :
    sites.Nodup := by
  refine h.imp fun {s t} hlt => ?_
  rintro rfl
  exact List.lex_irrefl Nat.lt_irrefl s hlt

/-- The number of a call among calls that come from these sites. -/
def Call.number (call : Call) (sites : List Site) : Nat := sites.idxOf call.site

/-- Calls from some of these sites, in their order, ascend in number. -/
theorem pairwise_number {calls : List Call} {sites : List Site} (hnodup : sites.Nodup)
    (h : (calls.map (·.site)).Sublist sites) :
    calls.Pairwise fun a b => a.number sites < b.number sites := by
  have hsites : sites.Pairwise fun s t => sites.idxOf s < sites.idxOf t := by
    refine List.pairwise_iff_getElem.2 fun i j hi hj hij => ?_
    rwa [hnodup.idxOf_getElem, hnodup.idxOf_getElem]
  have hcalls := hsites.sublist h
  rwa [List.pairwise_map] at hcalls

/-! ## Runs that stop at a failing call -/

namespace Run

variable {ε ε' α β : Type} {fails : Call → ε → Prop}

/-- No call of the run fails if the run goes through; otherwise its last call does, with the error of
the run, and no other. -/
structure StopsAt (fails : Call → ε → Prop) (run : Run ε α) : Prop where
  ok : ∀ a, run.result = .ok a → ∀ call ∈ run.calls, ∀ e, ¬ fails call e
  error : ∀ e, run.result = .error e → ∃ earlier last, run.calls = earlier ++ [last] ∧
    (∀ e', fails last e' ↔ e = e') ∧ ∀ call ∈ earlier, ∀ e', ¬ fails call e'

namespace StopsAt

theorem pure (a : α) : StopsAt fails (pure a : Run ε α) where
  ok := by simp
  error := by simp

/-- One call that fails as the run does. -/
theorem called {call : Call} {result : Except ε α} (h : ∀ e, fails call e ↔ result = .error e) :
    (called call result).StopsAt fails where
  ok := by
    rintro a rfl call' hcall e
    obtain rfl := List.mem_singleton.1 hcall
    simp [h]
  error := by
    rintro e rfl
    refine ⟨[], call, rfl, fun e' => ?_, by simp⟩
    rw [h, Except.error.injEq]

theorem bind {run : Run ε α} {next : α → Run ε β} (h : run.StopsAt fails)
    (hnext : ∀ a, run.result = .ok a → (next a).StopsAt fails) : (run >>= next).StopsAt fails := by
  cases hrun : run.result with
  | error e =>
    rw [bind_of_error hrun]
    refine ⟨fun a ha => absurd ha (by simp), fun e' he' => ?_⟩
    obtain rfl := Except.error.inj he'
    exact h.error e hrun
  | ok a =>
    have hcalls := h.ok a hrun
    have ha := hnext a hrun
    rw [bind_of_ok hrun]
    refine ⟨fun b hb call hcall e => ?_, fun e he => ?_⟩
    · rcases List.mem_append.1 hcall with hcall | hcall
      · exact hcalls call hcall e
      · exact ha.ok b hb call hcall e
    · obtain ⟨earlier, last, hlast, hfails, hearlier⟩ := ha.error e he
      refine ⟨run.calls ++ earlier, last, ?_, hfails, fun call hcall => ?_⟩
      · simp only [hlast, List.append_assoc]
      · rcases List.mem_append.1 hcall with hcall | hcall
        · exact hcalls call hcall
        · exact hearlier call hcall

theorem map {run : Run ε α} (f : α → β) (h : run.StopsAt fails) : (f <$> run).StopsAt fails := by
  rw [map_eq_pure_bind]
  exact h.bind fun a _ => pure (f a)

/-- A call that fails is the last one, and the run fails as it does. -/
theorem last_of_fails {run : Run ε α} (h : run.StopsAt fails) {call : Call}
    (hcall : call ∈ run.calls) {e : ε} (hfails : fails call e) :
    run.calls.getLast? = some call ∧ run.result = .error e := by
  cases hresult : run.result with
  | ok a => exact absurd hfails (h.ok a hresult call hcall e)
  | error e' =>
    obtain ⟨earlier, last, hcalls, hlast, hearlier⟩ := h.error e' hresult
    rw [hcalls] at hcall ⊢
    rcases List.mem_append.1 hcall with hcall | hcall
    · exact absurd hfails (hearlier call hcall e)
    · obtain rfl := List.mem_singleton.1 hcall
      exact ⟨List.getLast?_concat .., by rw [(hlast e).1 hfails]⟩

/-- A run fails as its last call does. -/
theorem fails_of_error {run : Run ε α} (h : run.StopsAt fails) {e : ε}
    (he : run.result = .error e) : ∃ call, run.calls.getLast? = some call ∧ fails call e := by
  obtain ⟨earlier, last, hcalls, hlast, -⟩ := h.error e he
  rw [hcalls]
  exact ⟨last, List.getLast?_concat .., (hlast e).2 rfl⟩

end StopsAt

end Run

end Destructure
