import Mathlib.Data.List.Forall2
import Postprocessor.Step

/-!
# Proofs — running steps

A step is a function of the state, so what it does can be worked out from its parts.

* `eq_mk_of_fst`: what a step does, from its outcome alone.
* `run_bind`: two steps in a row, by the outcome of the first.
* `bind_of_ok`, `bind_of_error`: the same where that outcome is known; `bind_cases`: back from what
  came of them; `snd_bind`: where the second changes nothing.
* `run_within`, `run_update`: steps on a part of the state, and steps that replace it.
* `forall_mapM`: what holds of the result of every step holds of the results of them all;
  `kept_bind`, `kept_mapM`: what every step leaves as it is, steps in a row leave as it is.
* `map_eq_ok`, `exists_map_eq_ok_iff`, `bind_eq_ok`, `mapError_eq_ok_iff`, `map_eq_error`,
  `bind_eq_error`, `bind_error_ne_ok`: results that are passed on, and failures that are passed on.
* `mapM_eq_ok_iff`, `exists_mapM_iff`: results in a row.
-/

namespace Postprocessor

variable {ε α β : Type}

/-- An outcome that is known, with the state that comes with it. -/
theorem eq_mk_of_fst {p : α × β} {a : α} (h : p.1 = a) : p = (a, p.2) := Prod.ext h rfl

theorem map_eq_ok {r : Except ε α} {f : α → β} {b : β}
    (h : r.map f = .ok b) : ∃ a, r = .ok a ∧ f a = b := by
  cases r with
  | error e => cases h
  | ok a => exact ⟨a, rfl, Except.ok.inj h⟩

theorem map_eq_error {r : Except ε α} {f : α → β} {e : ε}
    (h : r.map f = .error e) : r = .error e := by
  cases r with
  | error e' => cases h; rfl
  | ok a => cases h

theorem eq_ok_of_toOption {r : Except ε α} {a : α} (h : r.toOption = some a) : r = .ok a := by
  cases r with
  | error e => cases h
  | ok b => exact congrArg _ (Option.some.inj h)

theorem bind_eq_ok {r : Except ε α} {f : α → Except ε β} {b : β} (h : r.bind f = .ok b) :
    ∃ a, r = .ok a ∧ f a = .ok b := by
  cases r with
  | error e => cases h
  | ok a => exact ⟨a, rfl, h⟩

/-- Where two results in a row fail: at the first, or at the second. -/
theorem bind_eq_error {r : Except ε α} {f : α → Except ε β} {e : ε}
    (h : r.bind f = .error e) : r = .error e ∨ ∃ a, r = .ok a ∧ f a = .error e := by
  cases r with
  | error e' => cases h; exact .inl rfl
  | ok a => exact .inr ⟨a, rfl, h⟩

theorem mapError_ok {ε' : Type} (f : ε → ε') (a : α) :
    (Except.ok a : Except ε α).mapError f = .ok a := rfl

theorem mapError_error {ε' : Type} (f : ε → ε') (e : ε) :
    (Except.error e : Except ε α).mapError f = .error (f e) := rfl

theorem mapError_eq_ok_iff {ε' : Type} {r : Except ε α} {f : ε → ε'} {a : α} :
    r.mapError f = .ok a ↔ r = .ok a := by
  cases r with
  | error e => exact ⟨nofun, nofun⟩
  | ok b => rw [mapError_ok, Except.ok.injEq, Except.ok.injEq]

theorem exists_map_eq_ok_iff {r : Except ε α} {f : α → β} :
    (∃ b, r.map f = .ok b) ↔ ∃ a, r = .ok a := by
  constructor
  · rintro ⟨b, h⟩
    obtain ⟨a, ok, -⟩ := map_eq_ok h
    exact ⟨a, ok⟩
  · rintro ⟨a, rfl⟩
    exact ⟨f a, rfl⟩

/-- A failure that is made from another result is a failure. -/
theorem bind_error_ne_ok (r : Except ε β) (f : β → ε) (a : α) :
    (r.bind fun b => .error (f b) : Except ε α) ≠ .ok a := by
  cases r <;> simp [Except.bind]

/-- Results in a row are those of one after the other. -/
theorem mapM_eq_ok_iff {f : α → Except ε β} {xs : List α} {ys : List β} :
    xs.mapM f = .ok ys ↔ List.Forall₂ (fun x y => f x = .ok y) xs ys := by
  induction xs generalizing ys with
  | nil =>
      rw [List.mapM_nil, List.forall₂_nil_left_iff]
      exact ⟨fun h => (Except.ok.inj h).symm, fun h => congrArg _ h.symm⟩
  | cons x xs ih =>
      rw [List.mapM_cons, List.forall₂_cons_left_iff]
      constructor
      · intro h
        obtain ⟨y, first, rest⟩ := bind_eq_ok h
        obtain ⟨ys', others, ok⟩ := bind_eq_ok rest
        exact ⟨y, ys', first, ih.mp others, (Except.ok.inj ok).symm⟩
      · rintro ⟨y, ys', first, others, rfl⟩
        rw [first, ih.mpr others]
        rfl

/-- There are results in a row where there is one each time. -/
theorem exists_mapM_iff {f : α → Except ε β} {xs : List α} :
    (∃ ys, xs.mapM f = .ok ys) ↔ ∀ x ∈ xs, ∃ y, f x = .ok y := by
  simp only [mapM_eq_ok_iff]
  induction xs with
  | nil => simp
  | cons x xs ih =>
      rw [List.forall_mem_cons, ← ih]
      constructor
      · rintro ⟨ys, h⟩
        cases h with
        | cons first others => exact ⟨⟨_, first⟩, _, others⟩
      · rintro ⟨⟨y, first⟩, ys, others⟩
        exact ⟨y :: ys, .cons first others⟩

namespace Step

variable {σ τ : Type}

@[simp] theorem run_pure (a : α) (s : σ) :
    (pure a : ExceptT ε (StateM σ) α) s = (.ok a, s) := rfl

@[simp] theorem run_lift (r : Except Failure α) (s : σ) : (lift r : Step σ α) s = (r, s) := rfl

@[simp] theorem run_throw (e : ε) (s : σ) :
    (throw e : ExceptT ε (StateM σ) α) s = (.error e, s) := rfl

@[simp] theorem run_get (s : σ) : (get : ExceptT ε (StateM σ) σ) s = (.ok s, s) := rfl

@[simp] theorem run_set (s s' : σ) :
    (set s' : ExceptT ε (StateM σ) PUnit) s = (.ok ⟨⟩, s') := rfl

@[simp] theorem run_modify (f : σ → σ) (s : σ) :
    (modify f : ExceptT ε (StateM σ) PUnit) s = (.ok ⟨⟩, f s) := rfl

theorem run_bind (x : ExceptT ε (StateM σ) α) (f : α → ExceptT ε (StateM σ) β) (s : σ) :
    (x >>= f) s = match (x s).1 with
      | .ok a => f a (x s).2
      | .error e => (.error e, (x s).2) := by
  change (ExceptT.bindCont f (x s).1 : StateM σ _) (x s).2 = _
  cases (x s).1 <;> rfl

theorem bind_of_ok {x : ExceptT ε (StateM σ) α} {s s' : σ} {a : α} (h : x s = (.ok a, s'))
    (f : α → ExceptT ε (StateM σ) β) : (x >>= f) s = f a s' := by
  rw [run_bind, h]

theorem bind_of_error {x : ExceptT ε (StateM σ) α} {s s' : σ} {e : ε} (h : x s = (.error e, s'))
    (f : α → ExceptT ε (StateM σ) β) : (x >>= f) s = (.error e, s') := by
  rw [run_bind, h]

/-- What a step does is one thing. -/
theorem run_eq_iff {x : ExceptT ε (StateM σ) α} {s s₁ : σ} {r : Except ε α} (h : x s = (r, s₁))
    (r' : Except ε α) (s' : σ) : x s = (r', s') ↔ r = r' ∧ s₁ = s' := by
  rw [h]
  exact Iff.of_eq (Prod.mk.injEq ..)

/-- What two steps in a row do: the second runs after the first, or the first fails. -/
theorem bind_cases {x : ExceptT ε (StateM σ) α} {f : α → ExceptT ε (StateM σ) β} {s s' : σ}
    {r : Except ε β} (h : (x >>= f) s = (r, s')) :
    (∃ a s₁, x s = (.ok a, s₁) ∧ f a s₁ = (r, s')) ∨ ∃ e, x s = (.error e, s') ∧ r = .error e := by
  rw [run_bind] at h
  rcases hx : x s with ⟨_ | a, s₁⟩ <;> rw [hx] at h
  · cases h
    exact .inr ⟨_, rfl, rfl⟩
  · exact .inl ⟨a, s₁, rfl, h⟩

/-- A step that changes nothing may follow. -/
theorem snd_bind {f : α → ExceptT ε (StateM σ) β} (h : ∀ a s, (f a s).2 = s)
    (x : ExceptT ε (StateM σ) α) (s : σ) : ((x >>= f) s).2 = (x s).2 := by
  rw [run_bind]
  cases (x s).1 with
  | ok a => exact h a _
  | error e => rfl

theorem run_within (get : σ → τ) (set : σ → τ → σ) (step : Step τ α) (s : σ) :
    within get set step s = ((step (get s)).1, set s (step (get s)).2) := rfl

theorem run_update (f : σ → Except Failure σ) (s : σ) :
    update f s = match f s with
      | .ok s' => (.ok (), s')
      | .error e => (.error e, s) := rfl

/-- What is done to the result of every step is done to the results of steps in a row. -/
theorem mapM_map_result {γ : Type} (g : β → γ) (f : α → Step σ β) (xs : List α) :
    (xs.mapM fun x => g <$> f x) = List.map g <$> xs.mapM f := by
  induction xs with
  | nil => simp
  | cons x xs ih => simp [ih]

/-- What holds of the result of every step holds of the results of steps in a row. -/
theorem forall_mapM {P : β → Prop} {f : α → Step σ β} {xs : List α}
    (h : ∀ x ∈ xs, ∀ s b, (f x s).1 = .ok b → P b) {s : σ} {bs : List β}
    (hr : (xs.mapM f s).1 = .ok bs) : ∀ b ∈ bs, P b := by
  induction xs generalizing s bs with
  | nil =>
      cases hr
      exact List.forall_mem_nil _
  | cons x xs ih =>
      obtain ⟨first, others⟩ := List.forall_mem_cons.mp h
      rw [List.mapM_cons, run_bind] at hr
      split at hr
      · next b hb =>
        rw [run_bind] at hr
        split at hr
        · next bs' hbs =>
          cases hr
          exact List.forall_mem_cons.mpr ⟨first s b hb, ih others hbs⟩
        · cases hr
      · cases hr

section Kept

variable {γ : Type} (view : σ → γ)

/-- What two steps leave as it is, both in a row leave as it is. -/
theorem kept_bind {x : Step σ α} {f : α → Step σ β} (hx : ∀ s, view (x s).2 = view s)
    (hf : ∀ a s, (x s).1 = .ok a → ∀ s', view (f a s').2 = view s') (s : σ) :
    view ((x >>= f) s).2 = view s := by
  rw [run_bind]
  cases hr : (x s).1 with
  | ok a => exact (hf a s hr _).trans (hx s)
  | error e => exact hx s

theorem kept_mapM {f : α → Step σ β} {xs : List α} (h : ∀ x ∈ xs, ∀ s, view (f x s).2 = view s)
    (s : σ) : view (xs.mapM f s).2 = view s := by
  induction xs generalizing s with
  | nil => rfl
  | cons x xs ih =>
      obtain ⟨first, others⟩ := List.forall_mem_cons.mp h
      rw [List.mapM_cons]
      exact kept_bind view first (fun _ _ _ => kept_bind view (ih others) fun _ _ _ _ => rfl) s

end Kept

end Step

end Postprocessor
