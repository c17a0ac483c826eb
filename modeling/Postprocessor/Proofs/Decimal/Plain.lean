import Postprocessor.Proofs.Decimal.Equality
import Postprocessor.Proofs.Decimal.Fixed

/-!
# Proofs — plain numbers

Every finite number has a plain text: there is no exponent in it, and no point without digits on
both sides.

* `IsPlainNumber`: a minus or nothing, digits, and maybe a point and digits.
* `isPlainNumber_intText`, `isPlainNumber_fixed`: whole numbers, and decimals that are written in
  full.
* `isPlainNumber_plainText`: finite numbers.
-/

namespace Postprocessor

/-- The text is a minus or nothing, one or more digits, and maybe a point and one or more digits. -/
def IsPlainNumber (cs : List Char) : Prop :=
  ∃ (negative : Bool) (whole : List Char) (fraction : Option (List Char)),
    whole ≠ [] ∧ (∀ c ∈ whole, c.isDigit = true) ∧
    (∀ ds ∈ fraction, ds ≠ [] ∧ ∀ c ∈ ds, c.isDigit = true) ∧
    cs = (if negative then ['-'] else []) ++ whole ++ (fraction.map ('.' :: ·)).getD []

theorem isPlainNumber_whole {whole : List Char} (hne : whole ≠ [])
    (hd : ∀ c ∈ whole, c.isDigit = true) (negative : Bool) :
    IsPlainNumber ((if negative then ['-'] else []) ++ whole) :=
  ⟨negative, whole, none, hne, hd, nofun, (List.append_nil _).symm⟩

/-- There are no other characters than digits, a minus and a point. -/
theorem IsPlainNumber.isPlainDigit {cs : List Char} (h : IsPlainNumber cs) :
    ∀ c ∈ cs, IsPlainDigit c := by
  obtain ⟨negative, whole, fraction, -, wholes, fractions, rfl⟩ := h
  refine List.forall_mem_append.mpr ⟨List.forall_mem_append.mpr
    ⟨by cases negative <;> simp [IsPlainDigit], fun c hc => .inl (wholes c hc)⟩, ?_⟩
  cases fraction with
  | none => exact List.forall_mem_nil _
  | some digits =>
      exact List.forall_mem_cons.mpr ⟨.inr (.inr rfl), fun c hc => .inl ((fractions _ rfl).2 c hc)⟩

namespace Decimal

/-- **A decimal that is written in full** is a plain number: if its power of ten is negative, it has
as many digits after the point. -/
theorem isPlainNumber_fixed (d : Decimal) : IsPlainNumber d.fixed := by
  by_cases h : 0 ≤ d.exponent
  · have digits := List.append_ne_nil_of_left_ne_nil (natText_ne_nil d.coefficient)
      (List.replicate d.exponent.toNat '0')
    rw [fixed, fixedMagnitude, if_pos h]
    exact isPlainNumber_whole digits (areDigits_natText_zeros _ _) d.negative
  · obtain ⟨whole, fraction, text, nonempty, wholes, fractions, places, -⟩ :=
      withPoint_eq d.coefficient (-d.exponent).toNat
    have some : fraction ≠ [] := by
      rintro rfl
      rw [List.length_nil] at places
      omega
    refine ⟨d.negative, whole, fraction, nonempty, wholes, ?_, ?_⟩
    · rintro ds ⟨⟩
      exact ⟨some, fractions⟩
    · rw [fixed, fixedMagnitude, if_neg h, text, List.append_assoc]
      rfl

end Decimal

theorem isPlainNumber_intText (i : Int) : IsPlainNumber (intText i) := by
  rw [intText_eq_fixed]
  exact Decimal.isPlainNumber_fixed _

/-- **A finite number** is written as a plain number, however great or small it is. -/
theorem Binary64.isPlainNumber_plainText (s : Bool) (r : Fin rankCount) :
    IsPlainNumber (plainText (.finite s r)) := by
  rcases plainText_finite s r with ⟨i, whole⟩ | decimal
  · rw [whole]
    exact isPlainNumber_intText i
  · rw [decimal]
    exact Decimal.isPlainNumber_fixed _

end Postprocessor
