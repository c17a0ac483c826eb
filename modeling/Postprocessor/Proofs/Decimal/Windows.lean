import Postprocessor.Proofs.Decimal.Equality
import Postprocessor.Proofs.Decimal.Fixed

/-!
# Proofs — different numbers are written differently

The numbers that are read as one magnitude form a window, and the windows of neighbouring magnitudes
touch.  The end that two of them share belongs to the one with the even significand only, so no
decimal lies in two windows.  The shortest decimal of a number lies in its window; hence it is not
that of another number.

* `Binary64.IsScaled`: a rank by its significand and its exponent.
* `Window.low_succ`, `closed_succ`: the window of the next magnitude.
* `Window.rank_eq_of_holds`: windows have nothing in common.
* `contains_shortest`: the shortest decimal lies in the window.
* `units_mod_of_contains`: no whole number lies in the window of a number that is not whole.
* `same_of_plainText`, `sameInt_of_plainText`: numbers with one plain text are equal.
-/

namespace Postprocessor

namespace Binary64

/-! ### Significands -/

/-- The rank has the significand `m` and the exponent `e`. -/
structure IsScaled (rank m e : Nat) : Prop where
  rank : rank = e * binade + m
  bound : m < 2 * binade
  /-- Above the lowest exponent the leading bit is set. -/
  leading : 0 < e → binade ≤ m

theorem isScaled (rank : Nat) : IsScaled rank (significand rank) (exponent rank) := by
  have split : binade * (rank / binade) + rank % binade = rank := Nat.div_add_mod ..
  have rest : rank % binade < binade := Nat.mod_lt _ (by decide)
  rw [significand, exponent]
  rcases Nat.eq_zero_or_pos (rank / binade) with h | h
  · rw [h] at split ⊢
    exact ⟨by omega, by omega, by omega⟩
  · obtain ⟨e, he⟩ : ∃ e, rank / binade = e + 1 := ⟨rank / binade - 1, by omega⟩
    rw [he, Nat.mul_succ, Nat.mul_comm] at split
    rw [he, Nat.add_sub_cancel]
    exact ⟨by omega, by omega, by omega⟩

variable {rank m e : Nat}

theorem IsScaled.exponent_eq (h : IsScaled rank m e) : exponent rank = e := by
  obtain ⟨rfl, bound, leading⟩ := h
  rw [exponent, Nat.mul_comm, Nat.mul_add_div (by decide)]
  rcases Nat.lt_or_ge m binade with small | large
  · have lowest : e = 0 := by
      refine Nat.eq_zero_of_not_pos fun he => ?_
      exact absurd (leading he) (Nat.not_le.mpr small)
    rw [Nat.div_eq_of_lt small, lowest]
  · have one : m / binade = 1 := Nat.div_eq_of_lt_le (by omega) (by omega)
    rw [one, Nat.add_sub_cancel]

theorem IsScaled.significand_eq (h : IsScaled rank m e) : significand rank = m := by
  rw [significand, h.exponent_eq, h.rank]
  omega

/-- The next rank has the next significand, or it begins the next binade. -/
theorem IsScaled.succ (h : IsScaled rank m e) :
    (m + 1 < 2 * binade ∧ IsScaled (rank + 1) (m + 1) e) ∨
      (m + 1 = 2 * binade ∧ IsScaled (rank + 1) binade (e + 1)) := by
  obtain ⟨rfl, bound, leading⟩ := h
  by_cases hm : m + 1 < 2 * binade
  · exact .inl ⟨hm, Nat.add_assoc .., hm, fun he => Nat.le_succ_of_le (leading he)⟩
  · refine .inr ⟨by omega, ?_, by omega, fun _ => Nat.le_refl _⟩
    rw [Nat.add_mul]
    omega

theorem IsScaled.units_eq (h : IsScaled rank m e) : units rank = m * 2 ^ e := by
  rw [units, h.significand_eq, h.exponent_eq]

theorem IsScaled.significand_pos (h : IsScaled rank m e) (hr : rank ≠ 0) : 0 < m := by
  obtain ⟨rfl, -, leading⟩ := h
  rcases Nat.eq_zero_or_pos e with rfl | he
  · omega
  · exact Nat.lt_of_lt_of_le (by decide) (leading he)

end Binary64

open Binary64

/-! ### Windows -/

namespace Window

variable {rank r q m e num den : Nat} {w : Window}

theorem ofRank_eq (h : IsScaled rank m e) : ofRank rank =
    { low := 4 * (m * 2 ^ e) - (if m = binade ∧ 0 < e then 2 ^ e else 2 * 2 ^ e)
      centre := 4 * (m * 2 ^ e)
      high := 4 * (m * 2 ^ e) + 2 * 2 ^ e
      closed := m % 2 == 0 } := by
  rw [ofRank, h.significand_eq, h.exponent_eq]

/-- **Windows touch.**  A window begins where that of the rank before it ends. -/
theorem low_succ (rank : Nat) : (ofRank (rank + 1)).low = (ofRank rank).high := by
  have h := isScaled rank
  generalize significand rank = m at h
  generalize exponent rank = e at h
  rcases h.succ with ⟨-, next⟩ | ⟨full, next⟩
  · have inside : ¬ (m + 1 = binade ∧ 0 < e) := by
      rintro ⟨hm, he⟩
      have := h.leading he
      omega
    rw [ofRank_eq next, ofRank_eq h]
    simp only [if_neg inside, Nat.add_mul]
    omega
  · -- the first step of a binade is as wide as the last one before it
    have first : binade = binade ∧ 0 < e + 1 := ⟨rfl, Nat.succ_pos e⟩
    have wide : binade * 2 ^ (e + 1) = m * 2 ^ e + 2 ^ e := by
      calc binade * 2 ^ (e + 1) = (2 * binade) * 2 ^ e := by
            rw [Nat.pow_succ, Nat.mul_comm (2 ^ e), ← Nat.mul_assoc, Nat.mul_comm binade]
        _ = m * 2 ^ e + 2 ^ e := by rw [← full, Nat.add_mul, Nat.one_mul]
    rw [ofRank_eq next, ofRank_eq h, if_pos first, wide]
    simp only [Nat.pow_succ]
    omega

/-- Only one of two neighbouring windows has its ends. -/
theorem closed_succ (rank : Nat) : (ofRank (rank + 1)).closed = !(ofRank rank).closed := by
  have h := isScaled rank
  generalize significand rank = m at h
  generalize exponent rank = e at h
  rcases h.succ with ⟨-, next⟩ | ⟨full, next⟩ <;> rw [ofRank_eq next, ofRank_eq h]
  · rcases Nat.mod_two_eq_zero_or_one m with even | odd
    · simp [even, Nat.add_mod]
    · simp [odd, Nat.add_mod]
  · have odd : m % 2 = 1 := by omega
    simp [odd]

theorem low_lt_high (rank : Nat) : (ofRank rank).low < (ofRank rank).high := by
  have pos := Nat.two_pow_pos (exponent rank)
  rw [ofRank_eq (isScaled rank)]
  simp only
  omega

/-- A window lies below all later ones. -/
theorem high_le_low (h : r < q) : (ofRank r).high ≤ (ofRank q).low := by
  induction h with
  | refl => exact Nat.le_of_eq (low_succ r).symm
  | @step q _ ih =>
      rw [low_succ]
      exact Nat.le_trans ih (Nat.le_of_lt (low_lt_high q))

/-! ### Numbers in windows -/

theorem bounds_of_holds (h : w.holds num den = true) : w.low * den ≤ num ∧ num ≤ w.high * den := by
  rw [holds] at h
  split at h
  · simpa using h
  · have strict : w.low * den < num ∧ num < w.high * den := by simpa using h
    exact ⟨Nat.le_of_lt strict.1, Nat.le_of_lt strict.2⟩

theorem strict_of_holds (hc : w.closed = false) (h : w.holds num den = true) :
    w.low * den < num ∧ num < w.high * den := by
  simpa [holds, hc] using h

theorem holds_of_strict (hl : w.low * den < num) (hh : num < w.high * den) :
    w.holds num den = true := by
  rw [holds]
  split <;> simp <;> omega

theorem not_holds_of_lt (hr : (ofRank r).holds num den = true) (hd : 0 < den) (h : r < q) :
    (ofRank q).holds num den = false := by
  refine Bool.eq_false_iff.mpr fun hq => ?_
  have below := (bounds_of_holds hr).2
  have above := (bounds_of_holds hq).1
  rcases Nat.lt_or_eq_of_le (Nat.succ_le_of_lt h) with far | rfl
  · -- there is a window between the two
    have between : (ofRank r).high < (ofRank q).low :=
      calc (ofRank r).high = (ofRank (r + 1)).low := (low_succ r).symm
        _ < (ofRank (r + 1)).high := low_lt_high _
        _ ≤ (ofRank q).low := high_le_low far
    exact absurd (Nat.le_trans above below)
      (Nat.not_le.mpr (Nat.mul_lt_mul_of_pos_right between hd))
  · -- the number is the end that the two share
    rw [low_succ] at above
    cases hc : (ofRank r).closed with
    | false => exact absurd (strict_of_holds hc hr).2 (Nat.not_lt.mpr above)
    | true =>
        have opened : (ofRank (r + 1)).closed = false := by rw [closed_succ, hc]; rfl
        have strict := (strict_of_holds opened hq).1
        rw [low_succ] at strict
        exact absurd strict (Nat.not_lt.mpr below)

/-- **Windows have nothing in common.** -/
theorem rank_eq_of_holds (hr : (ofRank r).holds num den = true)
    (hq : (ofRank q).holds num den = true) (hd : 0 < den) : r = q := by
  rcases Nat.lt_trichotomy r q with h | h | h
  · rw [not_holds_of_lt hr hd h] at hq
    cases hq
  · exact h
  · rw [not_holds_of_lt hq hd h] at hr
    cases hr

/-! ### The grid -/

theorem grid_pos (k : Int) : 0 < (grid k).1 ∧ 0 < (grid k).2 := by
  have unit : 0 < 4 * unitsPerOne := Nat.mul_pos (by decide) (Nat.pos_of_ne_zero unitsPerOne_ne_zero)
  have power : ∀ n : Nat, 0 < 10 ^ n := fun n => Nat.pow_pos (by decide)
  rw [grid]
  split
  · exact ⟨Nat.mul_pos unit (power _), Nat.one_pos⟩
  · exact ⟨unit, power _⟩

/-- The grid of a power of ten that is a quotient of two others. -/
theorem grid_mul {k : Int} {a b : Nat} (h : k + a = b) :
    (grid k).1 * 10 ^ a = 4 * unitsPerOne * 10 ^ b * (grid k).2 := by
  rw [grid]
  generalize 4 * unitsPerOne = u
  split
  · have power : b = k.toNat + a := by omega
    rw [power, Nat.pow_add, Nat.mul_one, Nat.mul_assoc]
  · have power : a = b + (-k).toNat := by omega
    rw [power, Nat.pow_add, ← Nat.mul_assoc]

theorem holds_mul (w : Window) {k : Nat} (hk : 0 < k) :
    w.holds (num * k) (den * k) = w.holds num den := by
  rw [holds, holds]
  simp only [← Nat.mul_assoc, Nat.mul_le_mul_right_iff hk, Nat.mul_lt_mul_right hk]

/-- The window has the decimal in it. -/
def contains (w : Window) (d : Decimal) : Bool :=
  w.holds (d.coefficient * (grid d.exponent).1) (grid d.exponent).2

theorem contains_settled (w : Window) (d : Decimal) : w.contains d.settled = w.contains d := by
  rw [contains, contains, Decimal.settled]
  split
  · next h =>
      rw [grid, grid, if_pos h, if_pos (Int.le_refl 0)]
      simp only [Int.toNat_zero, Nat.pow_zero, Nat.mul_one]
      rw [Nat.mul_right_comm, Nat.mul_assoc]
  · rfl

/-- Ten times as many of a power of ten are as many of the next one. -/
theorem contains_mul_ten (w : Window) (negative : Bool) (n : Nat) (k : Int) :
    w.contains ⟨negative, n * 10, k⟩ = w.contains ⟨negative, n, k + 1⟩ := by
  rw [contains, contains]
  generalize hu : 4 * unitsPerOne = u
  by_cases h : 0 ≤ k
  · have next : 0 ≤ k + 1 := by omega
    have power : (k + 1).toNat = k.toNat + 1 := by omega
    rw [grid, grid, if_pos h, if_pos next, hu, power, Nat.pow_succ, Nat.mul_assoc,
      Nat.mul_left_comm 10, Nat.mul_comm 10]
  · have power : (-k).toNat = (-(k + 1)).toNat + 1 := by omega
    have next : grid (k + 1) = (u, 10 ^ (-(k + 1)).toNat) := by
      rw [grid, hu]
      split
      · have zero : k + 1 = 0 := by omega
        rw [zero]
        simp
      · rfl
    rw [grid, if_neg h, next, hu, power, Nat.pow_succ, Nat.mul_right_comm]
    exact holds_mul w (by decide)

/-- **No decimal is read as two numbers.** -/
theorem rank_eq_of_contains {d : Decimal} (hr : (ofRank r).contains d = true)
    (hq : (ofRank q).contains d = true) : r = q :=
  rank_eq_of_holds hr hq (grid_pos _).2

/-! ### The search -/

theorem holds_pick {k : Int} {d : Nat} (h : w.pick k = some d) :
    w.holds (d * (grid k).1) (grid k).2 = true := by
  have chosen : ∀ near far : Nat,
      (if w.holds (near * (grid k).1) (grid k).2 then some near
        else if w.holds (far * (grid k).1) (grid k).2 then some far else none) = some d →
      w.holds (d * (grid k).1) (grid k).2 = true := by
    intro near far hd
    split at hd
    · next first => cases hd; exact first
    · split at hd
      · next second => cases hd; exact second
      · cases hd
  exact chosen _ _ h

/-- A multiple is found if the window reaches farther to both sides than half a step of the grid. -/
theorem exists_pick {k : Int} {reach : Nat} (hl : w.low + reach ≤ w.centre)
    (hh : w.centre + reach ≤ w.high) (fine : (grid k).1 < 2 * reach * (grid k).2) :
    ∃ d, w.pick k = some d := by
  have hp := (grid_pos k).1
  rcases hg : grid k with ⟨p, q⟩
  rw [hg] at hp fine
  simp only at hp fine
  have found : ∀ near far : Nat, w.low * q < near * p → near * p < w.high * q →
      ∃ d, (if w.holds (near * p) q then some near
        else if w.holds (far * p) q then some far else none) = some d :=
    fun near far hl hh => ⟨near, if_pos (holds_of_strict hl hh)⟩
  have low := Nat.mul_le_mul_right q hl
  have high := Nat.mul_le_mul_right q hh
  rw [Nat.add_mul] at low high
  rw [Nat.mul_assoc] at fine
  -- the centre lies between two neighbouring multiples
  have below : w.centre * q / p * p ≤ w.centre * q := Nat.div_mul_le_self ..
  have above : w.centre * q < w.centre * q / p * p + p := Nat.lt_div_mul_add hp
  have next : (w.centre * q / p + 1) * p = w.centre * q / p * p + p := Nat.succ_mul ..
  simp only [pick, hg]
  split
  · refine found (w.centre * q / p) (w.centre * q / p + 1) ?_ ?_ <;> omega
  · refine found (w.centre * q / p + 1) (w.centre * q / p) ?_ ?_ <;> omega

/-- The search ends with the first power of ten that has a multiple in the window. -/
theorem search_eq {tries : Nat} {k : Int}
    (h : ∃ j : Nat, j < tries ∧ ∃ d, w.pick (k - j) = some d) :
    ∃ j : Nat, (w.search tries k).2 = k - j ∧ w.pick (k - j) = some (w.search tries k).1 ∧
      ∀ i < j, w.pick (k - i) = none := by
  induction tries generalizing k with
  | zero =>
      obtain ⟨j, hj, -⟩ := h
      exact absurd hj (Nat.not_lt_zero j)
  | succ tries ih =>
      rw [search]
      cases hp : w.pick k with
      | some d =>
          refine ⟨0, ?_⟩
          rw [Int.natCast_zero, Int.sub_zero]
          exact ⟨rfl, hp, fun i hi => absurd hi (Nat.not_lt_zero i)⟩
      | none =>
          have step : ∀ j : Nat, k - 1 - (j : Int) = k - ((j + 1 : Nat) : Int) := by omega
          obtain ⟨j, hj, d, hd⟩ := h
          have later : ∃ j : Nat, j < tries ∧ ∃ d, w.pick (k - 1 - j) = some d := by
            cases j with
            | zero => simp [hp] at hd
            | succ j => exact ⟨j, by omega, d, by rwa [step]⟩
          obtain ⟨j, place, found, first⟩ := ih later
          rw [step] at place found
          refine ⟨j + 1, place, found, fun i hi => ?_⟩
          cases i with
          | zero => rwa [Int.natCast_zero, Int.sub_zero]
          | succ i =>
              rw [← step]
              exact first i (by omega)

/-! ### The shortest decimal -/

theorem lt_ten_pow_length (n : Nat) : n < 10 ^ (natText n).length :=
  (Nat.length_toDigits_le_iff (by decide) Nat.length_toDigits_pos).mp (Nat.le_refl _)

theorem ten_pow_length_le {n : Nat} (h : 0 < n) : 10 ^ ((natText n).length - 1) ≤ n := by
  rcases Nat.eq_zero_or_pos ((natText n).length - 1) with hl | hl
  · rwa [hl]
  · refine Nat.le_of_not_lt fun hn => ?_
    have short := (Nat.length_toDigits_le_iff (by decide) hl).mpr hn
    rw [natText] at hl short
    omega

/-- A step of the grid is below two steps of a magnitude if it is below its `10^17`th part. -/
theorem fine_of_lt {p q : Nat} (hm : m < 2 * binade) (h : p * 10 ^ 17 < 4 * (m * 2 ^ e) * q) :
    p < 2 * 2 ^ e * q := by
  refine Nat.lt_of_not_le fun coarse => ?_
  have bound : m ≤ 2 ^ 53 := Nat.le_of_lt hm
  have steps := Nat.mul_le_mul_right (2 ^ e * q) bound
  rw [Nat.mul_assoc] at coarse
  rw [← Nat.mul_assoc, Nat.mul_assoc (4 * m), Nat.mul_assoc 4] at h
  generalize 2 ^ e * q = t at *
  generalize m * t = n at *
  omega

/-- Two places below its top a number is greater than the power of ten, a place given or taken. -/
theorem exists_scale (hu : 0 < w.centre / 4) : ∃ a b : Nat, w.top - (19 : Nat) + (17 + a : Nat) = b ∧
    unitsPerOne * 10 ^ b < w.centre / 4 * 10 ^ a := by
  have one := Nat.pos_of_ne_zero unitsPerOne_ne_zero
  rw [top]
  generalize w.centre / 4 = u at *
  by_cases large : unitsPerOne ≤ u
  · -- from one upward the whole part has as many digits
    have whole := Nat.div_pos large one
    have length : 0 < (natText (u / unitsPerOne)).length := Nat.length_toDigits_pos
    have lead : unitsPerOne * 10 ^ ((natText (u / unitsPerOne)).length - 1) ≤ u :=
      Nat.le_trans (Nat.mul_le_mul_left _ (ten_pow_length_le whole)) (Nat.mul_div_le ..)
    refine ⟨1, _, ?_, Nat.lt_of_le_of_lt lead (by omega)⟩
    rw [if_pos large]
    omega
  · -- below one the reciprocal has as many digits as there are places before the first of the number
    have lead := (Nat.div_lt_iff_lt_mul hu).mp (lt_ten_pow_length (unitsPerOne / u))
    refine ⟨(natText (unitsPerOne / u)).length, 0, ?_, ?_⟩
    · rw [if_neg large]
      omega
    · rwa [Nat.pow_zero, Nat.mul_one, Nat.mul_comm u]

/-- Nineteen places below the top the grid is fine. -/
theorem fine_top (h : IsScaled rank m e) (hr : rank ≠ 0) :
    (grid ((ofRank rank).top - (19 : Nat))).1 < 2 * 2 ^ e * (grid ((ofRank rank).top - (19 : Nat))).2 := by
  have units : 0 < m * 2 ^ e := Nat.mul_pos (h.significand_pos hr) (Nat.two_pow_pos e)
  have centre : (ofRank rank).centre / 4 = m * 2 ^ e := by
    rw [ofRank_eq h]
    exact Nat.mul_div_cancel_left _ (by decide)
  obtain ⟨a, b, scale, lead⟩ := exists_scale (w := ofRank rank) (centre ▸ units)
  have grids := grid_mul scale
  have positive := (grid_pos ((ofRank rank).top - (19 : Nat))).2
  rw [centre] at lead
  generalize (grid ((ofRank rank).top - (19 : Nat))).1 = p at *
  generalize (grid ((ofRank rank).top - (19 : Nat))).2 = q at *
  refine fine_of_lt h.bound (Nat.lt_of_mul_lt_mul_right (a := 10 ^ a) ?_)
  calc p * 10 ^ 17 * 10 ^ a = 4 * (unitsPerOne * 10 ^ b) * q := by
        rw [Nat.mul_assoc, ← Nat.pow_add, grids, Nat.mul_assoc 4]
    _ < 4 * (m * 2 ^ e * 10 ^ a) * q :=
        Nat.mul_lt_mul_of_pos_right (Nat.mul_lt_mul_of_pos_left lead (by decide)) positive
    _ = 4 * (m * 2 ^ e) * q * 10 ^ a := by
        rw [← Nat.mul_assoc, Nat.mul_right_comm]

/-- The shortest decimal is what the search ends with. -/
theorem shortest_eq {negative : Bool} (hr : rank ≠ 0) {d : Nat} {k : Int}
    (hs : (ofRank rank).search 20 (ofRank rank).top = (d, k)) :
    shortest negative rank = ⟨negative, d, k⟩ := by
  rw [shortest, if_neg hr]
  -- only the result of the search counts, which is too long to be looked into
  generalize ofRank rank = w at *
  extract_lets u
  have same : w = u := rfl
  clear_value u
  subst same
  rw [hs]

/-- There is a multiple in the window within twenty places of its top. -/
theorem exists_pick_top (hr : rank ≠ 0) :
    ∃ j : Nat, j < 20 ∧ ∃ d, (ofRank rank).pick ((ofRank rank).top - j) = some d := by
  have h := isScaled rank
  have pos := Nat.two_pow_pos (exponent rank)
  have units := Nat.mul_le_mul_right (2 ^ exponent rank) (h.significand_pos hr)
  refine ⟨19, by decide, exists_pick ?_ ?_ (fine_top h hr)⟩
  · rw [ofRank_eq h]
    simp only
    split <;> omega
  · rw [ofRank_eq h]
    simp only
    omega

/-- **The shortest decimal lies in the window.** -/
theorem contains_shortest (negative : Bool) (hr : rank ≠ 0) :
    (ofRank rank).contains (shortest negative rank) = true := by
  obtain ⟨j, place, found, -⟩ := search_eq (exists_pick_top hr)
  have inside := holds_pick found
  rw [← place] at inside
  rcases hs : (ofRank rank).search 20 (ofRank rank).top with ⟨d, k⟩
  rw [hs] at inside
  rw [shortest_eq hr hs]
  exact inside

/-- A number whose window has a whole number in it is that number. -/
theorem units_mod_of_contains {negative : Bool} {n : Nat}
    (h : (ofRank rank).contains ⟨negative, n, 0⟩ = true) : units rank % unitsPerOne = 0 := by
  have scaled := isScaled rank
  have inside := bounds_of_holds h
  generalize significand rank = m at scaled
  generalize exponent rank = e at scaled
  have low : 4 * (m * 2 ^ e) - 2 * 2 ^ e ≤ (ofRank rank).low := by
    rw [ofRank_eq scaled]
    simp only
    split <;> omega
  have high : (ofRank rank).high = 4 * (m * 2 ^ e) + 2 * 2 ^ e := by rw [ofRank_eq scaled]
  rw [grid, if_pos (Int.le_refl 0), high] at inside
  simp only [Int.toNat_zero, Nat.pow_zero, Nat.mul_one] at inside
  rw [scaled.units_eq]
  unfold unitsPerOne at *
  generalize 1074 = t at *
  rcases Nat.le_total t e with far | near
  · -- above one there are whole numbers only
    obtain ⟨k, rfl⟩ := Nat.exists_eq_add_of_le far
    rw [Nat.pow_add, Nat.mul_left_comm]
    exact Nat.mul_mod_right ..
  · -- a whole number is a multiple of the step, and the window has only the centre of these
    obtain ⟨k, rfl⟩ := Nat.exists_eq_add_of_le near
    have pos := Nat.two_pow_pos e
    have multiple : n * (4 * 2 ^ (e + k)) = 4 * (n * 2 ^ k * 2 ^ e) := by
      rw [Nat.add_comm, Nat.pow_add, Nat.mul_left_comm, Nat.mul_assoc]
    rw [multiple] at inside
    have same : n * 2 ^ k = m := by
      rcases Nat.lt_trichotomy (n * 2 ^ k) m with less | same | more
      · have := Nat.mul_le_mul_right (2 ^ e) less
        rw [Nat.succ_mul] at this
        omega
      · exact same
      · have := Nat.mul_le_mul_right (2 ^ e) more
        rw [Nat.succ_mul] at this
        omega
    rw [← same, Nat.mul_assoc, ← Nat.pow_add, Nat.add_comm k]
    exact Nat.mul_mod_left ..

end Window

namespace Binary64

/-! ### Plain texts -/

variable {s t : Bool} {r q : Fin rankCount} {i : Int}

theorem plainText_of_isWhole (h : isWhole (.finite s r) = true) :
    ∃ i, plainText (.finite s r) = intText i :=
  ⟨(signedUnits s r).tdiv unitsPerOne, by rw [plainText, if_pos h]⟩

/-- A number that is not whole has its shortest decimal as plain text, which lies in its window. -/
theorem plainText_of_not_isWhole (h : isWhole (.finite s r) = false) :
    plainText (.finite s r) = (shortest s r).fixed ∧
      (Window.ofRank r).contains (shortest s r) = true := by
  refine ⟨by rw [plainText, h]; rfl, Window.contains_shortest s fun zero => ?_⟩
  rw [isWhole, zero, units_zero, Nat.zero_mod] at h
  cases h

/-- **A number that is not whole is not written as a whole number.** -/
theorem isWhole_of_plainText (h : plainText (.finite s r) = intText i) :
    isWhole (.finite s r) = true := by
  refine Bool.not_eq_false _ ▸ fun hw => ?_
  obtain ⟨text, inside⟩ := plainText_of_not_isWhole hw
  rw [text, intText_eq_fixed] at h
  rw [← Window.contains_settled, Decimal.settled_eq_of_fixed h, Window.contains_settled] at inside
  rw [isWhole, Window.units_mod_of_contains inside] at hw
  cases hw

theorem signedUnits_of_isWhole (h : isWhole (.finite s r) = true) :
    signedUnits s r = (signedUnits s r).tdiv unitsPerOne * (unitsPerOne : Int) := by
  rw [isWhole, beq_iff_eq] at h
  have divides := Int.natCast_dvd_natCast.mpr (Nat.dvd_of_mod_eq_zero h)
  have signed : (unitsPerOne : Int) ∣ signedUnits s r := by
    rw [signedUnits]
    split
    · exact Int.dvd_neg.mpr divides
    · exact divides
  exact (Int.tdiv_mul_cancel signed).symm

/-- A number that is written as a whole number is equal to it. -/
theorem sameInt_of_plainText (h : plainText (.finite s r) = intText i) :
    sameInt (.finite s r) i = true := by
  have whole := isWhole_of_plainText h
  rw [plainText, if_pos whole] at h
  have value := signedUnits_of_isWhole whole
  rw [intText_injective h] at value
  exact beq_iff_eq.mpr value

theorem negative_shortest (s : Bool) (rank : Nat) : (shortest s rank).negative = s := by
  by_cases hr : rank = 0
  · rw [shortest, if_pos hr]
  · rcases hs : (Window.ofRank rank).search 20 (Window.ofRank rank).top with ⟨d, k⟩
    rw [Window.shortest_eq hr hs]

theorem negative_settled (d : Decimal) : d.settled.negative = d.negative := by
  rw [Decimal.settled]
  split <;> rfl

/-- **Numbers with one plain text are equal.** -/
theorem same_of_plainText (h : plainText (.finite s r) = plainText (.finite t q)) :
    same (.finite s r) (.finite t q) = true := by
  cases hw : isWhole (.finite s r) with
  | true =>
      obtain ⟨i, text⟩ := plainText_of_isWhole hw
      have first := sameInt_of_plainText text
      have second := sameInt_of_plainText (h.symm.trans text)
      rw [sameInt, beq_iff_eq] at first second
      rw [same, beq_iff_eq, first, second]
  | false =>
      cases hw' : isWhole (.finite t q) with
      | true =>
          obtain ⟨i, text⟩ := plainText_of_isWhole hw'
          rw [isWhole_of_plainText (h.trans text)] at hw
          cases hw
      | false =>
          obtain ⟨text, inside⟩ := plainText_of_not_isWhole hw
          obtain ⟨text', inside'⟩ := plainText_of_not_isWhole hw'
          have settled := Decimal.settled_eq_of_fixed (text.symm.trans (h.trans text'))
          have sign : s = t := by
            have signs := congrArg Decimal.negative settled
            rwa [negative_settled, negative_settled, negative_shortest, negative_shortest] at signs
          rw [← Window.contains_settled, settled, Window.contains_settled] at inside
          have rank : r = q := Fin.ext (Window.rank_eq_of_contains inside inside')
          rw [sign, rank, same, beq_iff_eq]

end Binary64

end Postprocessor
