import Postprocessor.Failure

/-!
# Steps that may fail

* `Step σ α`: a step on a state that yields a result or fails.  What was done before a failure
  stays done.
* `Step.within`: a step on a part of the state.
-/

namespace Postprocessor

/-- A step on a state of type `σ`. -/
abbrev Step (σ α : Type) : Type := ExceptT Failure (StateM σ) α

namespace Step

variable {σ τ α : Type}

/-- A result that depends on nothing, or a failure. -/
def lift (r : Except Failure α) : Step σ α := ExceptT.mk (pure r)

/-- A step on the part of a state that `get` reads and `set` replaces. -/
def within (get : σ → τ) (set : σ → τ → σ) (step : Step τ α) : Step σ α :=
  fun s =>
    let (r, t) := step (get s)
    (r, set s t)

/-- Replaces a state by a new one, unless that fails. -/
def update (f : σ → Except Failure σ) : Step σ Unit :=
  fun s =>
    match f s with
    | .ok s' => (.ok (), s')
    | .error e => (.error e, s)

end Step

end Postprocessor
