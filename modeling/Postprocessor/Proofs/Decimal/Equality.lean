import Postprocessor.Decimal.Shortest

/-!
# Proofs — equal numbers are written alike

The magnitudes of the finite numbers ascend with their ranks, so two finite numbers that are equal
have one rank, and one sign unless they are zeros.  A word shows a number by its plain text, which
for a whole number is the text of that whole number.

* `units_lt_units`: a greater rank is a greater magnitude.
* `plainText_eq_of_same`: equal numbers have one plain text.
* `plainText_eq_of_sameInt`: a number equal to a whole number is written as that whole number.
* `isPlainDigit_of_mem_plainText`: a finite number is written in digits, a point and a minus.
-/

namespace Postprocessor

namespace Binary64

/-! ### Ranks -/

/-- The significand is the whole rank in the lowest binade, and keeps its leading bit above. -/
theorem units_eq (rank : Nat) :
    units rank = if rank < binade then rank
      else (binade + rank % binade) * 2 ^ (rank / binade - 1) := by
  have split : binade * (rank / binade) + rank % binade = rank := Nat.div_add_mod ..
  rw [units, significand, exponent]
  by_cases h : rank < binade
  · simp [h, Nat.div_eq_of_lt h]
  · have pos : 1 ≤ rank / binade := Nat.div_pos (Nat.le_of_not_lt h) (by decide)
    rw [if_neg h]
    congr 1
    generalize rank / binade = e at *
    obtain ⟨e, rfl⟩ : ∃ k, e = k + 1 := ⟨e - 1, by omega⟩
    rw [Nat.add_sub_cancel, Nat.mul_comm e]
    rw [Nat.mul_succ] at split
    omega

theorem units_lt_binade_pow (rank : Nat) : units rank < binade * 2 ^ (rank / binade) := by
  have hm : rank % binade < binade := Nat.mod_lt _ (by decide)
  rw [units_eq]
  split
  · next h => rwa [Nat.div_eq_of_lt h, Nat.pow_zero, Nat.mul_one]
  · next h =>
    obtain ⟨e, he⟩ : ∃ e, rank / binade = e + 1 :=
      ⟨rank / binade - 1, by have := Nat.div_pos (Nat.le_of_not_lt h) (by decide); omega⟩
    rw [he, Nat.add_sub_cancel, Nat.pow_succ, Nat.mul_comm (2 ^ e), ← Nat.mul_assoc]
    exact Nat.mul_lt_mul_of_pos_right (by omega) (Nat.two_pow_pos e)

theorem binade_pow_le_units {rank : Nat} (h : binade ≤ rank) :
    binade * 2 ^ (rank / binade - 1) ≤ units rank := by
  rw [units_eq, if_neg (Nat.not_lt.mpr h)]
  exact Nat.mul_le_mul_right _ (Nat.le_add_right ..)

/-- **Ranks ascend.**  A greater rank is a greater magnitude. -/
theorem units_lt_units {r q : Nat} (h : r < q) : units r < units q := by
  have hle : r / binade ≤ q / binade := Nat.div_le_div_right (Nat.le_of_lt h)
  rcases Nat.lt_or_eq_of_le hle with hlt | heq
  · -- the binade of `q` starts where that of `r` ends at the latest
    have hq : binade ≤ q := by
      refine Nat.le_of_not_lt fun hc => ?_
      rw [Nat.div_eq_of_lt hc] at hlt
      exact absurd hlt (Nat.not_lt_zero _)
    calc units r < binade * 2 ^ (r / binade) := units_lt_binade_pow r
      _ ≤ binade * 2 ^ (q / binade - 1) :=
          Nat.mul_le_mul_left _ (Nat.pow_le_pow_right (by decide) (by omega))
      _ ≤ units q := binade_pow_le_units hq
  · -- in one binade the significands decide
    have hr : binade * (r / binade) + r % binade = r := Nat.div_add_mod ..
    have hq : binade * (q / binade) + q % binade = q := Nat.div_add_mod ..
    have hmod : r % binade < q % binade := by
      rw [heq] at hr
      omega
    rw [units_eq, units_eq]
    by_cases hb : q < binade
    · rw [if_pos (Nat.lt_trans h hb), if_pos hb]
      exact h
    · have hb' : ¬ r < binade := by
        intro hc
        rw [Nat.div_eq_of_lt hc] at heq
        exact absurd (Nat.div_pos (Nat.le_of_not_lt hb) (by decide)) (by omega)
      rw [if_neg hb', if_neg hb, heq]
      exact Nat.mul_lt_mul_of_pos_right (by omega) (Nat.two_pow_pos _)

theorem units_injective {r q : Nat} (h : units r = units q) : r = q := by
  rcases Nat.lt_trichotomy r q with hlt | heq | hgt
  · exact absurd h (Nat.ne_of_lt (units_lt_units hlt))
  · exact heq
  · exact absurd h.symm (Nat.ne_of_lt (units_lt_units hgt))

theorem units_zero : units 0 = 0 := by decide

/-- Two equal finite numbers are one number or two zeros. -/
theorem eq_of_signedUnits_eq {s t : Bool} {r q : Nat}
    (h : signedUnits s r = signedUnits t q) : r = q ∧ (s = t ∨ r = 0) := by
  have habs : units r = units q := by
    have := congrArg Int.natAbs h
    cases s <;> cases t <;> simpa [signedUnits] using this
  have hr : r = q := units_injective habs
  refine ⟨hr, ?_⟩
  by_cases hst : s = t
  · exact .inl hst
  · have hz : units r = 0 := by
      rw [hr] at h ⊢
      cases s <;> cases t <;> simp [signedUnits] at h hst ⊢ <;> omega
    exact .inr (units_injective (hz.trans units_zero.symm))

/-! ### Equal numbers -/

theorem unitsPerOne_ne_zero : unitsPerOne ≠ 0 := by
  unfold unitsPerOne
  generalize 1074 = n
  exact Nat.ne_of_gt (Nat.two_pow_pos n)

/-- A finite number that is a whole number of ones is written as that whole number. -/
theorem plainText_of_signedUnits {s : Bool} {r : Fin rankCount} {i : Int}
    (h : signedUnits s r = i * (unitsPerOne : Int)) : plainText (.finite s r) = intText i := by
  have pos : (unitsPerOne : Int) ≠ 0 := Int.natCast_ne_zero.mpr unitsPerOne_ne_zero
  have habs : units r = i.natAbs * unitsPerOne := by
    have key : (signedUnits s r).natAbs = units r := by
      cases s <;> simp [signedUnits]
    rw [← key, h, Int.natAbs_mul, Int.natAbs_natCast]
  have whole : isWhole (.finite s r) = true := by
    rw [isWhole, habs, Nat.mul_mod_left]
    rfl
  rw [plainText, if_pos whole, h, Int.mul_tdiv_cancel _ pos]

/-- **Equal numbers are written alike.** -/
theorem plainText_eq_of_same {x y : Binary64} (h : x.same y = true) :
    x.plainText = y.plainText := by
  cases x with
  | finite s r =>
      cases y with
      | finite t q =>
          obtain ⟨hrq, hst⟩ := eq_of_signedUnits_eq (eq_of_beq h)
          obtain rfl : r = q := Fin.ext hrq
          rcases hst with rfl | hz
          · rfl
          · -- the two zeros
            have zero : ∀ b, signedUnits b r = 0 * (unitsPerOne : Int) := by
              intro b
              rw [signedUnits, hz, units_zero, Int.zero_mul]
              cases b <;> rfl
            rw [plainText_of_signedUnits (zero s), plainText_of_signedUnits (zero t)]
      | _ => simp [same] at h
  | infinite s =>
      cases y with
      | infinite t =>
          obtain rfl : s = t := by simpa [same] using h
          rfl
      | _ => simp [same] at h
  | undefined m => simp [same] at h

theorem plainText_eq_of_sameInt {x : Binary64} {i : Int} (h : x.sameInt i = true) :
    x.plainText = intText i := by
  cases x with
  | finite s r => exact plainText_of_signedUnits (eq_of_beq h)
  | _ => simp [sameInt] at h

end Binary64

/-! ### The characters of a number -/

/-- A character of a number that is written in digits only. -/
def IsPlainDigit (c : Char) : Prop := c.isDigit = true ∨ c = '-' ∨ c = '.'

theorem isPlainDigit_of_mem_natText {n : Nat} {c : Char} (h : c ∈ natText n) : IsPlainDigit c :=
  .inl (Nat.isDigit_of_mem_toDigits (by decide) (by decide) h)

theorem isPlainDigit_of_mem_intText {i : Int} {c : Char} (h : c ∈ intText i) : IsPlainDigit c := by
  rw [intText] at h
  split at h
  · rcases List.mem_cons.mp h with rfl | h
    · exact .inr (.inl rfl)
    · exact isPlainDigit_of_mem_natText h
  · exact isPlainDigit_of_mem_natText h

namespace Decimal

theorem isPlainDigit_of_mem_withPoint {digits : List Char} {places : Nat}
    (hd : ∀ c ∈ digits, IsPlainDigit c) {c : Char} (h : c ∈ withPoint digits places) :
    IsPlainDigit c := by
  have zero : IsPlainDigit '0' := .inl rfl
  have point : IsPlainDigit '.' := .inr (.inr rfl)
  rw [withPoint] at h
  split at h
  · rcases List.mem_append.mp h with h | h
    · exact hd c (List.mem_of_mem_take h)
    · rcases List.mem_cons.mp h with rfl | h
      · exact point
      · exact hd c (List.mem_of_mem_drop h)
  · simp only [List.cons_append, List.mem_cons, List.mem_append, List.mem_replicate] at h
    rcases h with rfl | rfl | ⟨-, rfl⟩ | h
    · exact zero
    · exact point
    · exact zero
    · exact hd c h

theorem isPlainDigit_of_mem_fixed {d : Decimal} {c : Char} (h : c ∈ d.fixed) : IsPlainDigit c := by
  rw [fixed, fixedMagnitude] at h
  rcases List.mem_append.mp h with h | h
  · split at h
    · exact .inr (.inl (List.mem_singleton.mp h))
    · exact absurd h List.not_mem_nil
  · split at h
    · rcases List.mem_append.mp h with h | h
      · exact isPlainDigit_of_mem_natText h
      · rw [(List.mem_replicate.mp h).2]
        exact .inl rfl
    · exact isPlainDigit_of_mem_withPoint (fun _ => isPlainDigit_of_mem_natText) h

end Decimal

namespace Binary64

/-- The plain text of a finite number is that of a whole number, or a decimal written in full. -/
theorem plainText_finite (s : Bool) (r : Fin rankCount) :
    (∃ i, plainText (.finite s r) = intText i) ∨
      plainText (.finite s r) = (shortest s r).fixed := by
  rw [plainText]
  split
  · exact .inl ⟨_, rfl⟩
  · exact .inr rfl

theorem isPlainDigit_of_mem_plainText {s : Bool} {r : Fin rankCount} {c : Char}
    (h : c ∈ plainText (.finite s r)) : IsPlainDigit c := by
  rcases plainText_finite s r with ⟨i, e⟩ | e
  · exact isPlainDigit_of_mem_intText (e ▸ h)
  · exact Decimal.isPlainDigit_of_mem_fixed (e ▸ h)

end Binary64

end Postprocessor
