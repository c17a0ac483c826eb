import Postprocessor.Proofs.Decimal.Shown

/-!
# Proofs — a decimal is read as the number in whose window it lies

Reading rounds to the nearest magnitude.  The window of a magnitude is what is nearest to it, so the
magnitude that a fraction is rounded to has the fraction in its window; and since windows have
nothing in common, no other one has.

* `IsNearest`, `isNearest_roundEven`: rounding to a natural number.
* `Window.holds_nearestRank`: the nearest magnitude has the fraction in its window.
* `Decimal.toBinary64_eq_of_contains`: a decimal in the window of a finite number is read as that
  number, with its own sign.
* `Binary64.scanDecimal_plainText`: a finite number that is written in digits only is read back.
-/

namespace Postprocessor

/-! ### Natural numbers -/

/-- The natural number is as near to `num / den` as any other, and even if another one is as
near. -/
structure IsNearest (num den n : Nat) : Prop where
  below : 2 * (n * den) ≤ 2 * num + den
  above : 2 * num ≤ 2 * (n * den) + den
  odd : n % 2 = 1 → 2 * (n * den) < 2 * num + den ∧ 2 * num < 2 * (n * den) + den

namespace Binary64

theorem isNearest_roundEven (num : Nat) {den : Nat} (hd : 0 < den) :
    IsNearest num den (roundEven num den) := by
  have split : num / den * den + num % den = num := Nat.div_add_mod' ..
  have rest : num % den < den := Nat.mod_lt _ hd
  have next : (num / den + 1) * den = num / den * den + den := Nat.succ_mul ..
  rw [roundEven]
  split
  · next low => exact ⟨by omega, by omega, fun _ => by omega⟩
  split
  · next high => exact ⟨by omega, by omega, fun _ => by omega⟩
  · next =>
    rcases Nat.mod_two_eq_zero_or_one (num / den) with even | odd
    · rw [even, Nat.add_zero]
      exact ⟨by omega, by omega, fun odd => by omega⟩
    · rw [odd]
      exact ⟨by omega, by omega, fun even => by omega⟩

end Binary64

open Binary64

/-! ### Magnitudes -/

namespace Window

variable {rank m e num den : Nat}

/-- A magnitude that is nearest among those of its exponent has the number in its window, except
that a window reaches down only half as far where a binade begins. -/
theorem holds_of_isNearest (h : IsScaled rank m e) (near : IsNearest num (den * 2 ^ e) m)
    (start : m = binade ∧ 0 < e → 4 * (m * (den * 2 ^ e)) ≤ 4 * num + den * 2 ^ e) :
    (ofRank rank).holds (4 * num) den = true := by
  obtain ⟨below, above, odd⟩ := near
  have some : m % 2 = 1 → den * 2 ^ e ≤ m * (den * 2 ^ e) :=
    fun uneven => Nat.le_mul_of_pos_left _ (by omega)
  have centre : 4 * (m * 2 ^ e) * den = 4 * (m * (den * 2 ^ e)) := by
    rw [Nat.mul_assoc, Nat.mul_assoc, Nat.mul_comm (2 ^ e)]
  have step : 2 * 2 ^ e * den = 2 * (den * 2 ^ e) := by
    rw [Nat.mul_assoc, Nat.mul_comm (2 ^ e)]
  have half : 2 ^ e * den = den * 2 ^ e := Nat.mul_comm ..
  rw [ofRank_eq h, holds]
  simp only [Nat.sub_mul, Nat.add_mul, centre, step]
  by_cases first : m = binade ∧ 0 < e
  · have even : (m % 2 == 0) = true := by rw [first.1]; rfl
    have low := start first
    rw [if_pos even, if_pos first, half]
    simp only [Bool.and_eq_true, decide_eq_true_eq]
    omega
  · rw [if_neg first, step]
    split
    · simp only [Bool.and_eq_true, decide_eq_true_eq]
      omega
    · next uneven =>
      have one : m % 2 = 1 := by simpa using uneven
      have strict := odd one
      have positive := some one
      simp only [Bool.and_eq_true, decide_eq_true_eq]
      omega

/-- The exponent that a fraction is rounded with puts it below the end of a binade, and above the
lowest exponent not below its beginning. -/
theorem bounds_of_exponent (hd : 0 < den) (he : (num / den).log2 - 52 = e) :
    num < 2 * binade * (den * 2 ^ e) ∧ (0 < e → binade * (den * 2 ^ e) ≤ num) := by
  refine ⟨?_, fun pos => ?_⟩
  · have whole : num / den < 2 ^ (53 + e) :=
      Nat.lt_of_lt_of_le Nat.lt_log2_self (Nat.pow_le_pow_right (by decide) (by omega))
    rwa [Nat.div_lt_iff_lt_mul hd, Nat.pow_add, Nat.mul_assoc, Nat.mul_comm _ den] at whole
  · have log : (num / den).log2 = 52 + e := by omega
    have some : num / den ≠ 0 := by
      intro none
      rw [none, Nat.log2_zero] at log
      omega
    have whole := Nat.log2_self_le some
    rwa [log, Nat.le_div_iff_mul_le hd, Nat.pow_add, Nat.mul_assoc, Nat.mul_comm _ den] at whole

/-- A number between these bounds lies in the window of the nearest magnitude.  That may be the
first one of the next binade. -/
theorem holds_of_bounds (hd : 0 < den) (near : IsNearest num (den * 2 ^ e) m)
    (below : num < 2 * binade * (den * 2 ^ e)) (above : 0 < e → binade * (den * 2 ^ e) ≤ num) :
    (ofRank (e * binade + m)).holds (4 * num) den = true := by
  have pos : 0 < den * 2 ^ e := Nat.mul_pos hd (Nat.two_pow_pos e)
  rcases Nat.lt_or_ge m (2 * binade) with inside | beyond
  · have leading : 0 < e → binade ≤ m := by
      intro he
      refine Nat.le_of_not_lt fun less => ?_
      have less' := Nat.mul_le_mul_right (den * 2 ^ e) less
      have := above he
      have := near.above
      rw [Nat.succ_mul] at less'
      omega
    refine holds_of_isNearest ⟨rfl, inside, leading⟩ near fun first => ?_
    have := above first.2
    rw [first.1]
    omega
  · -- nothing beyond the end of the binade is nearest to a number below it
    have last : m = 2 * binade := by
      refine Nat.le_antisymm (Nat.le_of_not_lt fun more => ?_) beyond
      have more' := Nat.mul_le_mul_right (den * 2 ^ e) more
      have := near.below
      rw [Nat.succ_mul] at more'
      omega
    have scaled : IsScaled (e * binade + m) binade (e + 1) := by
      rw [last, Nat.two_mul, ← Nat.add_assoc, ← Nat.succ_mul]
      exact ⟨rfl, by decide, fun _ => Nat.le_refl _⟩
    have double : den * 2 ^ (e + 1) = 2 * (den * 2 ^ e) := by
      rw [Nat.pow_succ, ← Nat.mul_assoc, Nat.mul_comm]
    have centre : binade * (den * 2 ^ (e + 1)) = m * (den * 2 ^ e) := by
      rw [double, last, Nat.mul_left_comm, Nat.mul_assoc]
    have reach := near.below
    have end' : num < m * (den * 2 ^ e) := last ▸ below
    refine holds_of_isNearest scaled ⟨?_, ?_, fun odd => absurd odd (by decide)⟩ fun _ => ?_ <;>
      rw [centre, double] <;> omega

/-- **Reading rounds to the nearest magnitude**: the rank that a fraction is rounded to has the
fraction in its window. -/
theorem holds_nearestRank (num : Nat) (hd : 0 < den) :
    (ofRank (nearestRank num den)).holds (4 * (num * unitsPerOne)) den = true := by
  rw [nearestRank]
  obtain ⟨below, above⟩ := bounds_of_exponent hd rfl
  exact holds_of_bounds hd (isNearest_roundEven _ (Nat.mul_pos hd (Nat.two_pow_pos _))) below above

/-! ### Decimals -/

variable {d : Decimal}

/-- A decimal in a window has its rank as nearest one. -/
theorem nearestRank_of_contains (h : (ofRank rank).contains d = true) :
    (if 0 ≤ d.exponent then nearestRank (d.coefficient * 10 ^ d.exponent.toNat) 1
      else nearestRank d.coefficient (10 ^ (-d.exponent).toNat)) = rank := by
  rw [contains, grid] at h
  split
  · next whole =>
    rw [if_pos whole] at h
    refine rank_eq_of_holds (holds_nearestRank _ Nat.one_pos) ?_ Nat.one_pos
    have same : 4 * (d.coefficient * 10 ^ d.exponent.toNat * unitsPerOne) =
        d.coefficient * (4 * unitsPerOne * 10 ^ d.exponent.toNat) := by
      generalize unitsPerOne = u
      rw [Nat.mul_right_comm, Nat.mul_assoc, Nat.mul_left_comm, ← Nat.mul_assoc 4]
    rw [same]
    exact h
  · next places =>
    rw [if_neg places] at h
    have pos : 0 < 10 ^ (-d.exponent).toNat := Nat.pow_pos (by decide)
    refine rank_eq_of_holds (holds_nearestRank _ pos) ?_ pos
    rw [Nat.mul_left_comm]
    exact h

theorem ofRank_zero : ofRank 0 = ⟨0, 0, 2, true⟩ := by
  rw [ofRank_eq (⟨rfl, by decide, nofun⟩ : IsScaled 0 0 0)]
  rfl

/-- A decimal below `10^-330` lies in the window of zero. -/
theorem contains_of_small (h : d.coefficient = 0 ∨ d.magnitude < -330) :
    (ofRank 0).contains d = true := by
  have reach : d.coefficient * (grid d.exponent).1 ≤ 2 * (grid d.exponent).2 := by
    rcases h with zero | small
    · rw [zero, Nat.zero_mul]
      exact Nat.zero_le _
    · rw [Decimal.magnitude] at small
      have places : ¬ 0 ≤ d.exponent := by omega
      obtain ⟨k, hk, units⟩ : ∃ k, k = 331 ∧ 4 * unitsPerOne ≤ 2 * 10 ^ k :=
        ⟨331, rfl, by decide +kernel⟩
      have size := lt_ten_pow_length d.coefficient
      rw [grid, if_neg places]
      generalize 4 * unitsPerOne = u at *
      calc d.coefficient * u ≤ 10 ^ (natText d.coefficient).length * (2 * 10 ^ k) :=
            Nat.mul_le_mul (Nat.le_of_lt size) units
        _ = 2 * 10 ^ ((natText d.coefficient).length + k) := by
            rw [Nat.mul_left_comm, Nat.pow_add]
        _ ≤ 2 * 10 ^ (-d.exponent).toNat :=
            Nat.mul_le_mul_left 2 (Nat.pow_le_pow_right (by decide) (by omega))
  rw [contains, ofRank_zero, holds, if_pos rfl]
  simpa using reach

/-- A decimal from `10^310` on lies in no window of a finite number. -/
theorem magnitude_le_of_contains {r : Fin rankCount} (hc : d.coefficient ≠ 0)
    (h : (ofRank r).contains d = true) : d.magnitude ≤ 310 := by
  refine Int.not_lt.mp fun large => ?_
  rw [Decimal.magnitude] at large
  have digits : 0 < (natText d.coefficient).length := Nat.length_toDigits_pos
  have lead := ten_pow_length_le (Nat.pos_of_ne_zero hc)
  obtain ⟨b, hb⟩ : ∃ b : Nat, d.exponent + ((natText d.coefficient).length - 1 : Nat) = b :=
    ⟨(d.exponent + ((natText d.coefficient).length - 1 : Nat)).toNat, by omega⟩
  -- the greatest finite number ends where the next binade would begin
  have scaled : IsScaled rankCount binade 2046 := ⟨by decide, by decide, fun _ => Nat.le_refl _⟩
  have top : (ofRank r).high ≤ 4 * (binade * 2 ^ 2046) := by
    refine Nat.le_trans (high_le_low r.isLt) ?_
    rw [ofRank_eq scaled]
    exact Nat.sub_le ..
  obtain ⟨k, hk, less⟩ : ∃ k, k = 310 ∧ 4 * (binade * 2 ^ 2046) < 4 * unitsPerOne * 10 ^ k :=
    ⟨310, rfl, by decide +kernel⟩
  have inside := (bounds_of_holds h).2
  have pos := (grid_pos d.exponent).2
  have grids := grid_mul hb
  generalize (grid d.exponent).1 = p at *
  generalize (grid d.exponent).2 = q at *
  generalize 4 * unitsPerOne = u at *
  refine absurd inside (Nat.not_le.mpr ?_)
  calc (ofRank r).high * q ≤ 4 * (binade * 2 ^ 2046) * q := Nat.mul_le_mul_right q top
    _ < u * 10 ^ k * q := Nat.mul_lt_mul_of_pos_right less pos
    _ ≤ u * 10 ^ b * q :=
        Nat.mul_le_mul_right q (Nat.mul_le_mul_left u (Nat.pow_le_pow_right (by decide) (by omega)))
    _ = p * 10 ^ ((natText d.coefficient).length - 1) := grids.symm
    _ ≤ d.coefficient * p := by
        rw [Nat.mul_comm]
        exact Nat.mul_le_mul_right p lead

end Window

/-- **A decimal is read as the number in whose window it lies**, with its own sign. -/
theorem Decimal.toBinary64_eq_of_contains {d : Decimal} {r : Fin rankCount}
    (h : (Window.ofRank r).contains d = true) : d.toBinary64 = .finite d.negative r := by
  have chosen {num den : Nat} (near : nearestRank num den = r) :
      nearest d.negative num den = .finite d.negative r := by
    rw [nearest]
    simp only [near, dif_pos r.isLt]
  have nearby := Window.nearestRank_of_contains h
  rw [toBinary64]
  split
  · next small =>
    have zero : 0 = r.val := Window.rank_eq_of_contains (Window.contains_of_small small) h
    rw [Binary64.zero]
    exact congrArg _ (Fin.ext zero)
  · next some =>
    obtain ⟨hc, -⟩ := not_or.mp some
    rw [if_neg (Int.not_lt.mpr (Window.magnitude_le_of_contains hc h))]
    split
    · next whole => exact chosen (by rwa [if_pos whole] at nearby)
    · next places => exact chosen (by rwa [if_neg places] at nearby)

/-! ### Numbers that are written in digits -/

namespace Window

/-- A magnitude lies in its window. -/
theorem holds_units (rank : Nat) : (ofRank rank).holds (4 * units rank) 1 = true := by
  by_cases hr : rank = 0
  · rw [hr, ofRank_zero, units_zero]
    rfl
  · have h := isScaled rank
    have pos := Nat.two_pow_pos (exponent rank)
    have some : 0 < significand rank * 2 ^ exponent rank := Nat.mul_pos (h.significand_pos hr) pos
    refine holds_of_strict ?_ ?_ <;> rw [ofRank_eq h, h.units_eq]
    · simp only
      split <;> omega
    · simp only
      omega

end Window

namespace Binary64

variable {s : Bool} {r : Fin rankCount} {i : Int}

theorem units_of_sameInt (h : sameInt (.finite s r) i = true) :
    units r = i.natAbs * unitsPerOne := by
  rw [sameInt, beq_iff_eq] at h
  have magnitude := congrArg Int.natAbs h
  rw [Int.natAbs_mul, Int.natAbs_natCast] at magnitude
  rw [← magnitude]
  cases s <;> simp [signedUnits]

/-- A whole number is read as the number that is equal to it. -/
theorem toBinary64_ofInt (h : sameInt (.finite s r) i = true) :
    (Decimal.ofInt i).toBinary64.same (.finite s r) = true := by
  have units := units_of_sameInt h
  have inside : (Window.ofRank r).contains (Decimal.ofInt i) = true := by
    have centre := Window.holds_units r
    rw [units, Nat.mul_left_comm] at centre
    rw [Window.contains, Decimal.ofInt, Window.grid, if_pos (Int.le_refl 0), Int.toNat_zero,
      Nat.pow_zero, Nat.mul_one]
    exact centre
  rw [sameInt, beq_iff_eq] at h
  rw [Decimal.toBinary64_eq_of_contains inside, same, beq_iff_eq, h, Decimal.ofInt, signedUnits,
    units]
  generalize unitsPerOne = u
  by_cases negative : i < 0
  · have magnitude : (i.natAbs : Int) = -i := by omega
    simp [negative, magnitude, Int.neg_mul]
  · have magnitude : (i.natAbs : Int) = i := by omega
    simp [negative, magnitude]

/-- **A finite number that is written in digits only is read back.** -/
theorem scanDecimal_plainText (s : Bool) (r : Fin rankCount) : ∃ d,
    scanDecimal (plainText (.finite s r)) = some (d, []) ∧
      d.toBinary64.same (.finite s r) = true := by
  cases hw : isWhole (.finite s r) with
  | true =>
      obtain ⟨i, text⟩ := plainText_of_isWhole hw
      refine ⟨Decimal.ofInt i, ?_, toBinary64_ofInt (sameInt_of_plainText text)⟩
      rw [text, intText_eq_fixed, Decimal.scanDecimal_fixed, Decimal.ofInt, Decimal.settled_whole]
  | false =>
      obtain ⟨text, inside⟩ := plainText_of_not_isWhole hw
      refine ⟨_, by rw [text, Decimal.scanDecimal_fixed], ?_⟩
      rw [← Window.contains_settled] at inside
      rw [Decimal.toBinary64_eq_of_contains inside, negative_settled, negative_shortest, same]
      exact beq_self_eq_true _

end Binary64

end Postprocessor
