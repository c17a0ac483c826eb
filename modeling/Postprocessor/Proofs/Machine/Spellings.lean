import Postprocessor.Proofs.Decimal.Canonical
import Postprocessor.Proofs.Machine.Values

/-!
# Proofs — the numbers in words

A word shows a number in digits only, and every number has one spelling: equal numbers have one
text, whatever their type, and different ones have different texts.  The only numbers without a text
are whole numbers with too many digits.

* `Value.same_iff_digits`: numbers are equal if their digits are.
* `Value.IsExact`: a whole number or a finite number.
* `Value.spelled_once`: the text of a finite number, and when two numbers have one text.
* `Value.not_spelled`: a whole number with too many digits has no text.
-/

namespace Postprocessor.Value
open Binary64

theorem same_iff_digits {a b : Value} (ha : a.IsNumber) (hb : b.IsNumber) :
    a.same b = true ↔ a.digits = b.digits := by
  have agrees : Register.agrees a b = a.same b := by
    cases a with
    | int i | float x =>
        cases b with
        | bool c => exact hb.elim
        | _ => rfl
    | _ => exact ha.elim
  rw [← agrees]
  exact ⟨digits_eq_of_agrees ha hb, agrees_of_digits_eq ha hb⟩

/-- A whole number, however long, or a finite number. -/
def IsExact : Value → Prop
  | .int _ | .float (.finite ..) => True
  | _ => False

/-- **Numbers are spelled in one way.**  A finite number is written as a minus or nothing, digits
without a zero too many and, if and only if it is not whole, a point and digits that do not end in a
zero; a whole number is read as itself, zero without a minus, and any other one as the decimal that
it is shown as.  Two numbers have one text if and only if they are equal.  Whole numbers with too
many digits are not written. -/
theorem spelled_once :
    (∀ (s : Bool) (r : Fin rankCount), ∃ p : Spelling, p.IsCanonical ∧
        (Value.float (.finite s r)).plain = .ok (String.ofList p.text) ∧
        (p.fraction = [] ↔ ∃ i, sameInt (.finite s r) i = true) ∧
        (∀ i, sameInt (.finite s r) i = true → scanDecimal p.text = some (Decimal.ofInt i, [])) ∧
        ((∀ i, sameInt (.finite s r) i = false) → ∃ d,
          scanDecimal (Binary64.text (.finite s r)) = some (d, []) ∧
            scanDecimal p.text = some (d, []))) ∧
      (∀ a b : Value, a.IsNumber → b.IsNumber →
        ∃ t u, a.plain = .ok t ∧ b.plain = .ok u ∧ (t = u ↔ a.same b = true)) ∧
      ∀ i : Int, ¬ IsPrintable i → (Value.int i).plain = .error .tooManyDigits := by
  refine ⟨fun s r => ?_, fun a b ha hb => ?_, fun i => intWritten_of_not_isPrintable⟩
  · obtain ⟨p, canonical, text, spelled⟩ := exists_spelling s r
    exact ⟨p, canonical, by rw [← text]; rfl, spelled⟩
  · refine ⟨_, _, plain_eq_digits ha, plain_eq_digits hb, ?_⟩
    rw [same_iff_digits ha hb]
    exact ⟨String.ofList_injective, congrArg _⟩

/-- The zero with a minus is written as the whole number is. -/
theorem spelled_once_zero : (Value.float (.finite true ⟨0, by decide⟩)).IsNumber ∧
    (Value.int 0).IsNumber ∧ ∃ t, (Value.float (.finite true ⟨0, by decide⟩)).plain = .ok t ∧
      (Value.int 0).plain = .ok t := by
  have whole : (Value.int 0).IsNumber := by decide
  have equal : (Value.float (.finite true ⟨0, by decide⟩)).same (.int 0) = true := by
    have equal : sameInt (.finite true ⟨0, by decide⟩) 0 = true := by
      rw [sameInt, beq_iff_eq, signedUnits, units_zero, Int.zero_mul]
      rfl
    simpa only [same_int, sameAtom, int?, Option.any_some] using equal
  obtain ⟨t, u, first, second, one⟩ :=
    spelled_once.2.1 (.float (.finite true ⟨0, by decide⟩)) (.int 0) trivial whole
  exact ⟨trivial, whole, t, first, one.mpr equal ▸ second⟩

/-- **A whole number can be too long**: the first one with too many digits is equal to itself, but
there is no text for it. -/
theorem not_spelled : ¬ ∀ a b : Value, a.IsExact → b.IsExact →
    ∃ t u, a.plain = .ok t ∧ b.plain = .ok u ∧ (t = u ↔ a.same b = true) := by
  intro all
  have long := not_isPrintable_pow
  generalize (10 : Int) ^ digitLimit = i at long
  obtain ⟨t, -, text, -⟩ := all (.int i) (.int i) trivial trivial
  have fails : (Value.int i).plain = .error .tooManyDigits := intWritten_of_not_isPrintable long
  rw [fails] at text
  cases text

end Postprocessor.Value
