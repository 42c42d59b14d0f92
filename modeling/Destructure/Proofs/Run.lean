import Destructure.Run

set_option autoImplicit false

/-! # Sequencing of results and runs

What a computation that went through says about its steps, for plain results (`bind_eq_ok`) and for
runs (`Run.result_bind`, `Run.calls_bind_of_ok`). The calls of a run are made at sites, but a result
does not depend on where a node stands: `Run.Alike` relates two runs that report the same and call
the same extensions on the same data, wherever the calls come from. -/

namespace Destructure

variable {ε ε' ε'' α β γ : Type}

/-! ## Results -/

/-- A result in two steps was reached through a result of the first one. -/
theorem bind_eq_ok {first : Except ε α} {next : α → Except ε β} {b : β} :
    first >>= next = .ok b ↔ ∃ a, first = .ok a ∧ next a = .ok b := by
  rcases first with e | a <;> simp [bind, Except.bind]

/-- A failure in two steps is that of the step that fails first. -/
theorem bind_eq_error {first : Except ε α} {next : α → Except ε β} {e : ε} :
    first >>= next = .error e ↔
      first = .error e ∨ ∃ a, first = .ok a ∧ next a = .error e := by
  rcases first with e' | a <;> simp [bind, Except.bind]

theorem exists_eq_ok {r : Except ε α} (h : r.toOption.isSome) : ∃ a, r = .ok a := by
  cases r with
  | error e => cases h
  | ok a => exact ⟨a, rfl⟩

theorem map_eq_ok {f : α → β} {r : Except ε α} {b : β} :
    f <$> r = .ok b ↔ ∃ a, r = .ok a ∧ f a = b := by
  rcases r with e | a <;> simp [Functor.map, Except.map]

theorem map_eq_error {f : α → β} {r : Except ε α} {e : ε} :
    f <$> r = .error e ↔ r = .error e := by
  rcases r with e' | a <;> simp [Functor.map, Except.map]

theorem mapError_eq_ok {f : ε → ε'} {r : Except ε α} {a : α} :
    r.mapError f = .ok a ↔ r = .ok a := by
  cases r with
  | error e => exact iff_of_false (fun h => by cases h) (fun h => by cases h)
  | ok b =>
    constructor
    · rintro ⟨⟩
      rfl
    · rintro ⟨⟩
      rfl

theorem mapError_eq_error {f : ε → ε'} {r : Except ε α} {e' : ε'} :
    r.mapError f = .error e' ↔ ∃ e, r = .error e ∧ f e = e' := by
  cases r with
  | error e =>
    constructor
    · rintro ⟨⟩
      exact ⟨e, rfl, rfl⟩
    · rintro ⟨_, ⟨⟩, rfl⟩
      rfl
  | ok a => exact iff_of_false (fun h => by cases h) fun ⟨_, h, _⟩ => by cases h

/-- A list is gone through when its first item and the others are. -/
theorem mapM_cons_of_ok {f : α → Except ε β} {a : α} {as : List α} {b : β} {bs : List β}
    (h : f a = .ok b) (hs : as.mapM f = .ok bs) : (a :: as).mapM f = .ok (b :: bs) := by
  rw [List.mapM_cons, h, hs]
  rfl

/-- Results agree when they do after an injective map. -/
theorem map_injective {f : α → β} (hf : Function.Injective f) :
    Function.Injective (Functor.map f : Except ε α → Except ε β) := by
  intro r r' h
  cases r with
  | error e =>
    cases r' with
    | error e' => exact congrArg _ (Except.error.inj h)
    | ok a' => cases h
  | ok a =>
    cases r' with
    | error e' => cases h
    | ok a' => exact congrArg _ (hf (Except.ok.inj h))

namespace Run

/-! ## Calls and results of the operations -/

theorem ext {r s : Run ε α} (hcalls : r.calls = s.calls) (hresult : r.result = s.result) :
    r = s := by
  cases r; cases s; simp_all

@[simp] theorem calls_pure (a : α) : (pure a : Run ε α).calls = [] := rfl
@[simp] theorem result_pure (a : α) : (pure a : Run ε α).result = .ok a := rfl
@[simp] theorem calls_fail (e : ε) : (fail e : Run ε α).calls = [] := rfl
@[simp] theorem result_fail (e : ε) : (fail e : Run ε α).result = .error e := rfl
@[simp] theorem calls_called (call : Call) (result : Except ε α) :
    (called call result).calls = [call] := rfl
@[simp] theorem result_called (call : Call) (result : Except ε α) :
    (called call result).result = result := rfl
@[simp] theorem calls_ofExcept (result : Except ε α) : (ofExcept result).calls = [] := rfl
@[simp] theorem result_ofExcept (result : Except ε α) : (ofExcept result).result = result := rfl
@[simp] theorem calls_mapError (f : ε → ε') (run : Run ε α) :
    (run.mapError f).calls = run.calls := rfl

theorem bind_of_ok {run : Run ε α} {next : α → Run ε β} {a : α} (h : run.result = .ok a) :
    run >>= next = ⟨run.calls ++ (next a).calls, (next a).result⟩ := by
  show Run.bind run next = _
  simp only [Run.bind, h]

theorem bind_of_error {run : Run ε α} {next : α → Run ε β} {e : ε} (h : run.result = .error e) :
    run >>= next = ⟨run.calls, .error e⟩ := by
  show Run.bind run next = _
  simp only [Run.bind, h]

theorem result_bind (run : Run ε α) (next : α → Run ε β) :
    (run >>= next).result = run.result >>= fun a => (next a).result := by
  cases h : run.result with
  | error e => rw [bind_of_error h]; rfl
  | ok a => rw [bind_of_ok h]; rfl

/-- Only what is done with the result that is reached matters. -/
theorem bind_congr {run : Run ε α} {next next' : α → Run ε β}
    (h : ∀ a, run.result = .ok a → next a = next' a) : run >>= next = run >>= next' := by
  cases hr : run.result with
  | error e => rw [bind_of_error hr, bind_of_error hr]
  | ok a => rw [bind_of_ok hr, bind_of_ok hr, h a hr]

theorem calls_bind_of_ok {run : Run ε α} {next : α → Run ε β} {a : α} (h : run.result = .ok a) :
    (run >>= next).calls = run.calls ++ (next a).calls := by rw [bind_of_ok h]

theorem calls_bind_of_error {run : Run ε α} {next : α → Run ε β} {e : ε}
    (h : run.result = .error e) : (run >>= next).calls = run.calls := by rw [bind_of_error h]

protected theorem id_map (run : Run ε α) : id <$> run = run := by
  show run >>= (fun a => pure a) = run
  cases h : run.result with
  | error e => exact (bind_of_error h).trans (ext rfl h.symm)
  | ok a => exact (bind_of_ok h).trans (ext (List.append_nil _) h.symm)

protected theorem pure_bind (a : α) (next : α → Run ε β) : pure a >>= next = next a := by
  rw [bind_of_ok (result_pure a)]
  rfl

protected theorem bind_assoc (run : Run ε α) (next : α → Run ε β) (last : β → Run ε γ) :
    run >>= next >>= last = run >>= fun a => next a >>= last := by
  cases h : run.result with
  | error e => rw [bind_of_error h, bind_of_error h, bind_of_error rfl]
  | ok a =>
    rw [bind_of_ok h, bind_of_ok h]
    cases ha : (next a).result with
    | error e => rw [bind_of_error ha, bind_of_error rfl]
    | ok b => rw [bind_of_ok ha, bind_of_ok rfl, List.append_assoc]

instance : LawfulMonad (Run ε) :=
  LawfulMonad.mk' _ Run.id_map Run.pure_bind Run.bind_assoc

@[simp] theorem calls_map (f : α → β) (run : Run ε α) : (f <$> run).calls = run.calls := by
  rw [map_eq_pure_bind]
  cases h : run.result with
  | error e => rw [calls_bind_of_error h]
  | ok a => rw [calls_bind_of_ok h, calls_pure, List.append_nil]

@[simp] theorem result_map (f : α → β) (run : Run ε α) :
    (f <$> run).result = f <$> run.result := by
  rw [map_eq_pure_bind, result_bind, map_eq_pure_bind]
  rfl

theorem result_mapError_eq_ok {f : ε → ε'} {run : Run ε α} {a : α} :
    (run.mapError f).result = .ok a ↔ run.result = .ok a := by
  unfold mapError
  cases run.result <;> simp

theorem result_mapError_eq_error {f : ε → ε'} {run : Run ε α} {e : ε'} :
    (run.mapError f).result = .error e ↔ ∃ source, run.result = .error source ∧ f source = e := by
  unfold mapError
  cases run.result <;> simp

theorem mapError_bind (f : ε → ε') (run : Run ε α) (next : α → Run ε β) :
    (run >>= next).mapError f = run.mapError f >>= fun a => (next a).mapError f := by
  cases h : run.result with
  | error e =>
    rw [bind_of_error h, bind_of_error (e := f e) (result_mapError_eq_error.2 ⟨e, h, rfl⟩)]
    rfl
  | ok a =>
    rw [bind_of_ok h, bind_of_ok (result_mapError_eq_ok.2 h)]
    rfl

theorem mapError_map (f : ε → ε') (g : α → β) (run : Run ε α) :
    (g <$> run).mapError f = g <$> run.mapError f := by
  rw [map_eq_pure_bind, map_eq_pure_bind, mapError_bind]
  rfl

theorem mapError_mapError (f : ε → ε') (g : ε' → ε'') (run : Run ε α) :
    (run.mapError f).mapError g = run.mapError (g ∘ f) := by
  unfold mapError
  cases run.result <;> rfl

/-- A failure that keeps its form leaves the run as it is. -/
theorem mapError_eq_self {f : ε → ε} {run : Run ε α} (h : ∀ e, run.result = .error e → f e = e) :
    run.mapError f = run := by
  refine ext rfl ?_
  unfold mapError
  cases hr : run.result with
  | ok a => rfl
  | error e => exact congrArg Except.error (h e hr)

/-! ## Runs at different sites -/

/-- What was called, without the places where it was called. -/
def events (run : Run ε α) : List Event := run.calls.map Call.event

/-- Two runs report the same and make the same calls, if perhaps at different sites. -/
structure Alike (r s : Run ε α) : Prop where
  events : r.events = s.events
  result : r.result = s.result

namespace Alike

theorem refl (r : Run ε α) : Alike r r := ⟨rfl, rfl⟩

theorem symm {r s : Run ε α} (h : Alike r s) : Alike s r := ⟨h.events.symm, h.result.symm⟩

theorem trans {r s t : Run ε α} (h : Alike r s) (h' : Alike s t) : Alike r t :=
  ⟨h.events.trans h'.events, h.result.trans h'.result⟩

/-- Runs go on alike when they do so from the result that they reach. -/
theorem bind_of_result {r s : Run ε α} {f g : α → Run ε β} (h : Alike r s)
    (hfg : ∀ a, r.result = .ok a → Alike (f a) (g a)) : Alike (r >>= f) (s >>= g) := by
  have hevents : r.calls.map Call.event = s.calls.map Call.event := h.events
  cases hr : r.result with
  | error e =>
    rw [bind_of_error hr, bind_of_error (h.result ▸ hr)]
    exact ⟨hevents, rfl⟩
  | ok a =>
    rw [bind_of_ok hr, bind_of_ok (h.result ▸ hr)]
    have hnext : (f a).calls.map Call.event = (g a).calls.map Call.event := (hfg a hr).events
    refine ⟨?_, (hfg a hr).result⟩
    simp only [Run.events, List.map_append, hevents, hnext]

theorem bind {r s : Run ε α} {f g : α → Run ε β} (h : Alike r s) (hfg : ∀ a, Alike (f a) (g a)) :
    Alike (r >>= f) (s >>= g) := h.bind_of_result fun a _ => hfg a

theorem map {r s : Run ε α} (f : α → β) (h : Alike r s) : Alike (f <$> r) (f <$> s) := by
  rw [map_eq_pure_bind, map_eq_pure_bind]
  exact h.bind fun _ => .refl _

theorem mapError {r s : Run ε α} (f : ε → ε') (h : Alike r s) :
    Alike (r.mapError f) (s.mapError f) := by
  refine ⟨h.events, ?_⟩
  unfold Run.mapError
  rw [h.result]

theorem of_map {f : α → β} (hf : Function.Injective f) {r s : Run ε α}
    (h : Alike (f <$> r) (f <$> s)) : Alike r s := by
  obtain ⟨hevents, hresult⟩ := h
  rw [Run.events, Run.events, calls_map, calls_map] at hevents
  rw [result_map, result_map] at hresult
  exact ⟨hevents, map_injective hf hresult⟩

theorem called {site site' : Site} {event : Event} {result : Except ε α} :
    Alike (called ⟨site, event⟩ result) (called ⟨site', event⟩ result) := ⟨rfl, rfl⟩

end Alike

end Run

end Destructure
