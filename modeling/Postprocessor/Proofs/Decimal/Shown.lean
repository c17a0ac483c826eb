import Postprocessor.Proofs.Decimal.Windows

/-!
# Proofs — shown numbers are read back

A number is shown by its shortest decimal, written out in full or with an exponent.  The text is
read as a decimal with the same sign and in the same window, so no two numbers are shown alike.

* `scanExponent_exponentText`, `scanDecimal_scientific`: what is written with an exponent.
* `scanDecimal_magnitudeText_eq`, `scanDecimal_magnitudeText`: a decimal as it is shown.
* `Binary64.scanDecimal_text`: a finite number as it is shown.
* `Binary64.finite_injective_of_text`: no two finite numbers have one text.
-/

namespace Postprocessor
open Text Binary64

/-! ### The decimal of a number -/

namespace Window

theorem contains_zero (negative : Bool) : (ofRank 0).contains ⟨negative, 0, 0⟩ = true := by
  have lowest : IsScaled 0 0 0 := ⟨rfl, by decide, nofun⟩
  rw [contains, Nat.zero_mul, ofRank_eq lowest]
  simp [holds]

/-- **The shortest decimal** of a magnitude lies in its window. -/
theorem contains_shortest_rank (negative : Bool) (rank : Nat) :
    (ofRank rank).contains (shortest negative rank) = true := by
  by_cases h : rank = 0
  · rw [h, shortest, if_pos rfl]
    exact contains_zero negative
  · exact contains_shortest negative h

end Window

/-! ### Exponents -/

namespace Binary64

theorem scanExponent_exponentText (e : Int) : scanExponent (exponentText e) = (e, []) := by
  -- one zero before a single digit does not matter
  have padded : ∃ k, (if (natText e.natAbs).length < 2 then '0' :: natText e.natAbs
      else natText e.natAbs) = List.replicate k '0' ++ natText e.natAbs := by
    split
    · exact ⟨1, rfl⟩
    · exact ⟨0, rfl⟩
  obtain ⟨k, digits⟩ := padded
  have all : ∀ c ∈ List.replicate k '0' ++ natText e.natAbs, isDigit c = true :=
    fun c hc => isDigit_of_isDigit (areDigits_zeros_natText k _ c hc)
  have some : List.replicate k '0' ++ natText e.natAbs ≠ [] :=
    List.append_ne_nil_of_right_ne_nil _ (natText_ne_nil _)
  have sign : (if e < 0 then '-' else '+') = (if decide (e < 0) then '-' else '+') := by simp
  have signed : scanSign ([if decide (e < 0) then '-' else '+'] ++
      ((List.replicate k '0' ++ natText e.natAbs) ++ [])) =
        (decide (e < 0), (List.replicate k '0' ++ natText e.natAbs) ++ []) := by
    cases decide (e < 0) <;> rfl
  have scanned := scanExponent_letter (by decide : ('e' == 'e' || 'e' == 'E') = true) signed all
    (by simpa using some) (nofun : EndsDigits [])
  rw [digitsValue_zeros_natText, List.append_nil] at scanned
  rw [exponentText, digits, sign]
  refine scanned.trans (congrArg (·, []) ?_)
  by_cases h : e < 0
  · rw [decide_eq_true h, if_pos rfl]
    omega
  · rw [decide_eq_false h, if_neg Bool.false_ne_true]
    omega

theorem endsMantissa_exponentText (e : Int) : EndsMantissa (exponentText e) := by
  rintro c ⟨⟩
  decide

/-- Digits with an exponent. -/
theorem scanDecimal_scientific {digits : List Char} (hd : ∀ c ∈ digits, c.isDigit = true)
    (hne : digits ≠ []) (negative : Bool) (e : Int) :
    scanDecimal ((if negative then ['-'] else []) ++ (scientific digits ++ exponentText e)) =
      some (⟨negative, digitsValue 0 digits, e - (digits.length - 1)⟩, []) := by
  obtain ⟨d, rest, rfl⟩ := List.exists_cons_of_ne_nil hne
  obtain ⟨first, others⟩ := List.forall_mem_cons.mp hd
  have one : ∀ c ∈ [d], isDigit c = true :=
    List.forall_mem_singleton.mpr (isDigit_of_isDigit first)
  have mantissa : scanMantissa (scientific (d :: rest) ++ exponentText e) =
      some ([d], rest, exponentText e) := by
    cases rest with
    | nil =>
        exact scanMantissa_whole one nofun
          (endsMantissa_exponentText e)
    | cons d' rest =>
        exact scanMantissa_point one (fun c hc => isDigit_of_isDigit (others c hc)) (by simp)
          fun c hc => (endsMantissa_exponentText e c hc).1
  have unsigned : IsUnsigned (scientific (d :: rest) ++ exponentText e) := by
    cases rest <;> exact isUnsigned_of_isDigit (isDigit_of_isDigit first) _
  rw [scanDecimal, scanSign_signed unsigned]
  simp [mantissa, scanExponent_exponentText]

/-! ### Shown numbers -/

/-- **A decimal as it is shown** is read as it stands, unless it is shown as a whole number. -/
theorem scanDecimal_magnitudeText_eq {d : Decimal}
    (h : ¬ ((-4 < d.magnitude ∧ d.magnitude ≤ 16) ∧ 0 ≤ d.exponent)) (negative : Bool) :
    scanDecimal ((if negative then ['-'] else []) ++ magnitudeText d) =
      some (⟨negative, d.coefficient, d.exponent⟩, []) := by
  obtain ⟨sign, n, k⟩ := d
  by_cases full : -4 < Decimal.magnitude ⟨sign, n, k⟩ ∧ Decimal.magnitude ⟨sign, n, k⟩ ≤ 16
  · -- a number with places after the point
    have places : ¬ 0 ≤ k := fun whole => h ⟨full, whole⟩
    obtain ⟨whole, fraction, text, nonempty, wholes, fractions, length, value⟩ :=
      Decimal.withPoint_eq n (-k).toNat
    have exponent : -((-k).toNat : Int) = k := by omega
    rw [magnitudeText, if_pos full, if_neg places, Decimal.fixedMagnitude, if_neg places, text,
      scanDecimal_point wholes nonempty fractions, value, length, exponent]
  · have exponent : (natText n).length + k - 1 - (((natText n).length : Int) - 1) = k := by omega
    rw [magnitudeText, if_neg full,
      scanDecimal_scientific (fun _ => isDigit_of_mem_natText) (natText_ne_nil n),
      digitsValue_natText, Decimal.magnitude, exponent]

/-- In any case it is read as a decimal that lies in the same windows. -/
theorem scanDecimal_magnitudeText (d : Decimal) (negative : Bool) : ∃ d',
    scanDecimal ((if negative then ['-'] else []) ++ magnitudeText d) = some (d', []) ∧
      d'.negative = negative ∧ ∀ w : Window, w.contains d' = w.contains d := by
  by_cases h : (-4 < d.magnitude ∧ d.magnitude ≤ 16) ∧ 0 ≤ d.exponent
  · obtain ⟨sign, n, k⟩ := d
    obtain ⟨full, whole⟩ := h
    -- a whole number, with a zero after the point
    have digits : digitsValue 0 (natText n ++ List.replicate k.toNat '0' ++ ['0']) =
        n * 10 ^ k.toNat * 10 := by
      rw [List.append_assoc, ← List.replicate_succ', digitsValue_natText_zeros, Nat.pow_succ,
        Nat.mul_assoc]
    have scanned := scanDecimal_point (areDigits_natText_zeros n k.toNat)
      (List.append_ne_nil_of_left_ne_nil (natText_ne_nil n) _)
      (List.forall_mem_singleton.mpr (by decide : ('0').isDigit = true)) negative
    rw [digits] at scanned
    refine ⟨⟨negative, n * 10 ^ k.toNat * 10, -1⟩, ?_, rfl, fun w => ?_⟩
    · rw [magnitudeText, if_pos full, if_pos whole, Decimal.fixedMagnitude, if_pos whole]
      exact scanned
    · calc w.contains ⟨negative, n * 10 ^ k.toNat * 10, -1⟩
          = w.contains ⟨negative, n * 10 ^ k.toNat, 0⟩ := Window.contains_mul_ten w ..
        _ = w.contains (Decimal.settled ⟨sign, n, k⟩) := by
            rw [Decimal.settled, if_pos whole]
            rfl
        _ = w.contains ⟨sign, n, k⟩ := Window.contains_settled w _
  · exact ⟨_, scanDecimal_magnitudeText_eq h negative, rfl, fun _ => rfl⟩

variable {s t : Bool} {r q : Fin rankCount}

/-- **A number as it is shown** is read with its sign as a decimal in its window. -/
theorem scanDecimal_text (s : Bool) (r : Fin rankCount) : ∃ d,
    scanDecimal (text (.finite s r)) = some (d, []) ∧ d.negative = s ∧
      (Window.ofRank r).contains d = true := by
  obtain ⟨d, scanned, sign, same⟩ := scanDecimal_magnitudeText (shortest s r) s
  exact ⟨d, scanned, sign, (same _).trans (Window.contains_shortest_rank s r)⟩

/-- **No two finite numbers are shown alike.** -/
theorem finite_injective_of_text (h : text (.finite s r) = text (.finite t q)) :
    s = t ∧ r = q := by
  obtain ⟨d, scanned, sign, inside⟩ := scanDecimal_text s r
  obtain ⟨d', scanned', sign', inside'⟩ := scanDecimal_text t q
  rw [h, scanned'] at scanned
  obtain rfl : d' = d := congrArg Prod.fst (Option.some.inj scanned)
  exact ⟨sign.symm.trans sign', Fin.ext (Window.rank_eq_of_contains inside inside')⟩

/-- The text of a finite number has a point or an exponent. -/
theorem exists_point_or_exponent (s : Bool) (r : Fin rankCount) :
    '.' ∈ text (.finite s r) ∨ 'e' ∈ text (.finite s r) := by
  have shown : '.' ∈ magnitudeText (shortest s r) ∨ 'e' ∈ magnitudeText (shortest s r) := by
    rw [magnitudeText]
    split
    · refine .inl ?_
      split
      · simp
      · next h =>
        obtain ⟨whole, fraction, text, -⟩ :=
          Decimal.withPoint_eq (shortest s r).coefficient (-(shortest s r).exponent).toNat
        rw [Decimal.fixedMagnitude, if_neg h, text]
        simp
    · exact .inr (by simp [exponentText])
  exact shown.imp (List.mem_append_right _) (List.mem_append_right _)

end Binary64

end Postprocessor
