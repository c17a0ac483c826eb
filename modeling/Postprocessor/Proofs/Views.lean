import Postprocessor.Proofs.Running

/-!
# Proofs — views of steps

A step on a large state often depends on a part of that state alone, and changes nothing else that
matters.  It is then seen as a step on that part.

* `Step.SeenAs`: through a view of the states, a step does what another step does.
* `SeenAs.bind`, `SeenAs.forM`, …: steps that are put together are seen as what their parts are seen
  as, put together in the same way.
-/

namespace Postprocessor.Step

variable {σ τ α β : Type}

/-- On the states with a property, which the step keeps, the step is seen through the view as
another one: it has the same outcome, and leaves what the other step leaves. -/
def SeenAs (inv : σ → Prop) (view : σ → τ) (x : Step σ α) (y : Step τ α) : Prop :=
  ∀ s, inv s → y (view s) = ((x s).1, view (x s).2) ∧ inv (x s).2

namespace SeenAs

variable {inv : σ → Prop} {view : σ → τ}

theorem run {x : Step σ α} {y : Step τ α} (h : SeenAs inv view x y) {s : σ} (hs : inv s) :
    y (view s) = ((x s).1, view (x s).2) := (h s hs).1

theorem pure (a : α) : SeenAs inv view (pure a) (pure a) := fun _ hs => ⟨rfl, hs⟩

theorem throw (e : Failure) : SeenAs inv view (throw e : Step σ α) (throw e) :=
  fun _ hs => ⟨rfl, hs⟩

/-- Reading the state is reading the view, if what follows depends on the view alone. -/
theorem get {f : σ → Step σ α} {g : τ → Step τ α}
    (h : ∀ s, inv s → SeenAs inv view (f s) (g (view s))) :
    SeenAs inv view (MonadState.get >>= f) (MonadState.get >>= g) :=
  fun s hs => h s hs s hs

/-- A change of the state that the view shows. -/
theorem modify {f : σ → σ} {g : τ → τ} (h : ∀ s, inv s → view (f s) = g (view s) ∧ inv (f s)) :
    SeenAs inv view (modify f) (modify g) :=
  fun s hs => ⟨congrArg (Prod.mk _) (h s hs).1.symm, (h s hs).2⟩

theorem bind {x : Step σ α} {y : Step τ α} {f : α → Step σ β} {g : α → Step τ β}
    (hx : SeenAs inv view x y) (hf : ∀ a, SeenAs inv view (f a) (g a)) :
    SeenAs inv view (x >>= f) (y >>= g) := by
  intro s hs
  obtain ⟨hrun, hinv⟩ := hx s hs
  rw [run_bind, run_bind, hrun]
  cases (x s).1 with
  | ok a => exact hf a _ hinv
  | error e => exact ⟨rfl, hinv⟩

theorem forM {xs : List α} {f : α → Step σ Unit} {g : α → Step τ Unit}
    (h : ∀ x ∈ xs, SeenAs inv view (f x) (g x)) : SeenAs inv view (xs.forM f) (xs.forM g) := by
  induction xs with
  | nil => exact pure ()
  | cons x xs ih =>
      have rest := ih fun y hy => h y (List.mem_cons_of_mem _ hy)
      exact bind (h x (List.mem_cons_self ..)) fun _ => rest

end SeenAs

end Postprocessor.Step
