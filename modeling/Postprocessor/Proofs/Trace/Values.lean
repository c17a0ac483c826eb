import Postprocessor.Trace.Record

/-!
# Proofs — the values of a trace

A trace gives truth values, numbers, texts and symbols, and nothing else.

* `Value.IsScalar`: such a value; `isScalar_ofToken`: a bare token is one.
* `forall_records`: what holds of every value that a line of a trace gives holds of the parameters
  of its records.
* `Params.AreScalar`, `areScalar_records`: the parameters of every record of a trace are such values.
* `written_of_isScalar`: such a value can always be written.
-/

namespace Postprocessor

/-! ### Values -/

/-- A truth value, a number, a text or a symbol. -/
def Value.IsScalar : Value → Prop
  | .bool _ | .float _ | .text _ | .symbol _ => True
  | _ => False

theorem isScalar_ofToken (token : List Char) : (Value.ofToken token).IsScalar := by
  rw [Value.ofToken]
  repeat' split
  all_goals trivial

theorem written_of_isScalar {v : Value} (h : v.IsScalar) : ∃ s, v.written = .ok s := by
  cases v with
  | bool | float | text | symbol => exact ⟨_, rfl⟩
  | _ => exact h.elim

/-! ### Parameters -/

/-- All values of the parameters are scalars. -/
def Params.AreScalar (params : Params) : Prop := ∀ e ∈ params, e.2.IsScalar

namespace Params

section Values

variable {P : Value → Prop} {params : Params}

/-- What holds of all values holds of the value of a key. -/
theorem forall_lookup (h : ∀ e ∈ params, P e.2) {key : String} {v : Value}
    (hv : params.lookup key = some v) : P v := by
  induction params with
  | nil => cases hv
  | cons e rest ih =>
      rw [List.lookup_cons] at hv
      split at hv
      · cases hv
        exact h e (List.mem_cons_self ..)
      · exact ih (fun d hd => h d (List.mem_cons_of_mem _ hd)) hv

/-- What holds of all values holds of them after a key is given another one. -/
theorem forall_put (h : ∀ e ∈ params, P e.2) {v : Value} (hv : P v) (key : String) :
    ∀ e ∈ Fields.put params key v, P e.2 := by
  induction params with
  | nil => exact List.forall_mem_singleton.mpr hv
  | cons e rest ih =>
      obtain ⟨first, others⟩ := List.forall_mem_cons.mp h
      rw [Fields.put]
      split
      · exact List.forall_mem_cons.mpr ⟨hv, others⟩
      · exact List.forall_mem_cons.mpr ⟨first, ih others⟩

end Values

theorem AreScalar.lookup {params : Params} (h : params.AreScalar) {key : String} {v : Value}
    (hv : params.lookup key = some v) : v.IsScalar := forall_lookup h hv

end Params

namespace Trace

theorem isScalar_value (a : Assignment) : a.value.IsScalar := by
  rw [Assignment.value]
  split
  · trivial
  · exact isScalar_ofToken _

/-! ### Records -/

section Values

variable {P : Value → Prop}

theorem forall_assign {params : Params} (h : ∀ e ∈ params, P e.2) {line : List Char}
    (hl : ∀ a ∈ scan line, P a.value) : ∀ e ∈ assign params line, P e.2 := by
  rw [assign]
  generalize scan line = given at hl
  induction given generalizing params with
  | nil => exact h
  | cons a rest ih =>
      obtain ⟨first, others⟩ := List.forall_mem_cons.mp hl
      exact ih (Params.forall_put h first _) others

/-- The property holds of all values that are read so far. -/
structure Reading.Holds (P : Value → Prop) (r : Reading) : Prop where
  done : ∀ record ∈ r.done.toList, ∀ e ∈ record.params, P e.2
  opened : ∀ name params, r.opened = some (name, params) → ∀ e ∈ params, P e.2

theorem Reading.Holds.close {r : Reading} (h : r.Holds P) : r.close.Holds P := by
  rw [Reading.close]
  cases ho : r.opened with
  | none => exact h
  | some block =>
      obtain ⟨name, params⟩ := block
      refine ⟨fun record hr => ?_, nofun⟩
      rw [Array.toList_push] at hr
      rcases List.mem_append.mp hr with hr | hr
      · exact h.done record hr
      · obtain rfl := List.mem_singleton.mp hr
        exact h.opened name params ho

theorem Reading.Holds.step {r : Reading} (h : r.Holds P) {line : List Char}
    (hl : ∀ a ∈ scan line, P a.value) : (r.step line).Holds P := by
  rw [Reading.step]
  split
  · refine ⟨h.close.done, fun name params e => ?_⟩
    cases e
    exact forall_assign (List.forall_mem_nil _) hl
  · refine ⟨h.done, fun name params e => ?_⟩
    obtain ⟨⟨name', params'⟩, ho, e'⟩ := Option.map_eq_some_iff.mp e
    cases e'
    exact forall_assign (h.opened _ _ ho) hl

/-- **The parameters of records** are values that the lines of the trace give. -/
theorem forall_records {text : String}
    (h : ∀ line ∈ Text.lines text.toList, ∀ a ∈ scan line, P a.value) :
    ∀ record ∈ (records text).toList, ∀ e ∈ record.params, P e.2 := by
  have all : ∀ (ls : List (List Char)) (r : Reading), (∀ line ∈ ls, ∀ a ∈ scan line, P a.value) →
      r.Holds P → (ls.foldl Reading.step r).Holds P := by
    intro ls
    induction ls with
    | nil => exact fun _ _ h => h
    | cons line ls ih =>
        intro r hl hr
        obtain ⟨first, others⟩ := List.forall_mem_cons.mp hl
        exact ih _ others (hr.step first)
  have start : Reading.start.Holds P := ⟨by simp [Reading.start], nofun⟩
  exact (all _ _ h start).close.done

end Values

/-- **A trace gives scalars only.** -/
theorem areScalar_records (text : String) :
    ∀ record ∈ (records text).toList, record.params.AreScalar :=
  forall_records fun _ _ a _ => isScalar_value a

end Trace

end Postprocessor
