import Mathlib.Data.List.Basic
import Postprocessor.Proofs.Decimal.Shown

/-!
# Proofs — the one way to write a number

The shortest decimal of a number does not end in a zero, since the search for it goes from large
powers of ten to small ones.  So a number that is written in digits only has no zero too many, at
neither end.

* `coefficient_shortest_mod`: the shortest decimal does not end in a zero.
* `Spelling`, `Spelling.IsCanonical`: digits with a minus and a point, and no zero too many.
* `Binary64.exists_spelling`: the spelling of a finite number, and what it is read as.
-/

namespace Postprocessor
open Text Binary64

/-! ### The last digit of the shortest decimal -/

namespace Window

variable {rank n a b q : Nat} {k : Int} {w : Window}

theorem low_lt_centre (hr : rank ≠ 0) : (ofRank rank).low < (ofRank rank).centre := by
  have h := isScaled rank
  have pos := Nat.two_pow_pos (exponent rank)
  have some := Nat.mul_pos (h.significand_pos hr) pos
  rw [ofRank_eq h]
  simp only
  split <;> omega

theorem low_pos (hr : rank ≠ 0) : 0 < (ofRank rank).low := by
  have h := isScaled rank
  have pos := Nat.two_pow_pos (exponent rank)
  have some := Nat.le_mul_of_pos_left (2 ^ exponent rank) (h.significand_pos hr)
  rw [ofRank_eq h]
  simp only
  split <;> omega

theorem centre_lt_high (rank : Nat) : (ofRank rank).centre < (ofRank rank).high := by
  have pos := Nat.two_pow_pos (exponent rank)
  rw [ofRank_eq (isScaled rank)]
  simp only
  omega

/-- What lies between a number in the window and the upper end lies in the window. -/
theorem holds_of_le (h : w.holds a q = true) (hab : a ≤ b) (hb : b < w.high * q) :
    w.holds b q = true := by
  rw [holds] at h ⊢
  split at h
  · next closed =>
    rw [if_pos closed]
    simp only [Bool.and_eq_true, decide_eq_true_eq] at h ⊢
    omega
  · next opened =>
    rw [if_neg opened]
    simp only [Bool.and_eq_true, decide_eq_true_eq] at h ⊢
    omega

/-- What lies between the lower end and a number in the window lies in the window. -/
theorem holds_of_ge (h : w.holds a q = true) (hab : b ≤ a) (hb : w.low * q < b) :
    w.holds b q = true := by
  rw [holds] at h ⊢
  split at h
  · next closed =>
    rw [if_pos closed]
    simp only [Bool.and_eq_true, decide_eq_true_eq] at h ⊢
    omega
  · next opened =>
    rw [if_neg opened]
    simp only [Bool.and_eq_true, decide_eq_true_eq] at h ⊢
    omega

/-- If any multiple of a power of ten lies in the window, one is found. -/
theorem exists_pick_of_holds (hl : w.low < w.centre) (hh : w.centre < w.high)
    (h : w.holds (n * (grid k).1) (grid k).2 = true) : ∃ d, w.pick k = some d := by
  have found : ∀ near far : Nat, w.holds (near * (grid k).1) (grid k).2 = true ∨
      w.holds (far * (grid k).1) (grid k).2 = true →
      ∃ d, (if w.holds (near * (grid k).1) (grid k).2 then some near
        else if w.holds (far * (grid k).1) (grid k).2 then some far else none) = some d := by
    intro near far either
    by_cases first : w.holds (near * (grid k).1) (grid k).2 = true
    · exact ⟨near, if_pos first⟩
    · exact ⟨far, by rw [if_neg first, if_pos (either.resolve_left first)]⟩
  obtain ⟨hp, hq⟩ := grid_pos k
  rcases hg : grid k with ⟨p, q⟩
  simp only [hg] at h hp hq found
  have low := Nat.mul_lt_mul_of_pos_right hl hq
  have high := Nat.mul_lt_mul_of_pos_right hh hq
  have below : w.centre * q / p * p ≤ w.centre * q := Nat.div_mul_le_self ..
  have above : w.centre * q < (w.centre * q / p + 1) * p := by
    rw [Nat.succ_mul]
    exact Nat.lt_div_mul_add hp
  -- one of the two multiples next to the centre lies between it and the given one
  have either : w.holds (w.centre * q / p * p) q = true ∨
      w.holds ((w.centre * q / p + 1) * p) q = true := by
    rcases Nat.lt_or_ge (w.centre * q / p) n with more | less
    · exact .inr (holds_of_ge h (Nat.mul_le_mul_right p more) (by omega))
    · exact .inl (holds_of_le h (Nat.mul_le_mul_right p less) (by omega))
  simp only [pick, hg]
  split
  · exact found _ _ either
  · exact found _ _ either.symm

/-- The top of a window is a power of ten above its centre, up to a scale. -/
theorem exists_scale_top (hu : 0 < w.centre / 4) : ∃ a b : Nat, w.top + a = b ∧
    w.centre / 4 * 10 ^ a < unitsPerOne * 10 ^ b := by
  have one := Nat.pos_of_ne_zero unitsPerOne_ne_zero
  rw [top]
  generalize w.centre / 4 = u at *
  by_cases large : unitsPerOne ≤ u
  · -- from one upward the whole part has as many digits
    refine ⟨0, _, by rw [if_pos large]; exact Int.add_zero _, ?_⟩
    have whole := (Nat.div_lt_iff_lt_mul one).mp (lt_ten_pow_length (u / unitsPerOne))
    rwa [Nat.pow_zero, Nat.mul_one, Nat.mul_comm unitsPerOne]
  · -- below one the reciprocal has one digit more than there are zeros after the point
    have whole : 0 < unitsPerOne / u := Nat.div_pos (by omega) hu
    have length : 0 < (natText (unitsPerOne / u)).length := Nat.length_toDigits_pos
    refine ⟨(natText (unitsPerOne / u)).length - 1, 1, by rw [if_neg large]; omega, ?_⟩
    calc u * 10 ^ ((natText (unitsPerOne / u)).length - 1) ≤ u * (unitsPerOne / u) :=
          Nat.mul_le_mul_left u (ten_pow_length_le whole)
      _ ≤ unitsPerOne := Nat.mul_div_le ..
      _ < unitsPerOne * 10 ^ 1 := by omega

/-- The window of a number ends below twice its top. -/
theorem high_lt_top (hr : rank ≠ 0) :
    (ofRank rank).high * (grid (ofRank rank).top).2 < 2 * (grid (ofRank rank).top).1 := by
  have h := isScaled rank
  have steps := Nat.le_mul_of_pos_left (2 ^ exponent rank) (h.significand_pos hr)
  have pos := Nat.two_pow_pos (exponent rank)
  have centre : (ofRank rank).centre / 4 = significand rank * 2 ^ exponent rank := by
    rw [ofRank_eq h]
    exact Nat.mul_div_cancel_left _ (by decide)
  have high : (ofRank rank).high ≤ 8 * ((ofRank rank).centre / 4) := by
    rw [centre, ofRank_eq h]
    simp only
    omega
  obtain ⟨a, b, scale, above⟩ := exists_scale_top (w := ofRank rank) (by omega)
  have grids := grid_mul scale
  have positive := (grid_pos (ofRank rank).top).2
  generalize (grid (ofRank rank).top).1 = p at *
  generalize (grid (ofRank rank).top).2 = q at *
  generalize (ofRank rank).centre / 4 = u at *
  have beyond : 4 * u * q < p := by
    refine Nat.lt_of_mul_lt_mul_right (a := 10 ^ a) ?_
    calc 4 * u * q * 10 ^ a = 4 * (u * 10 ^ a) * q := by
          rw [Nat.mul_right_comm, Nat.mul_assoc 4]
      _ < 4 * (unitsPerOne * 10 ^ b) * q :=
          Nat.mul_lt_mul_of_pos_right (Nat.mul_lt_mul_of_pos_left above (by decide)) positive
      _ = p * 10 ^ a := by rw [grids, ← Nat.mul_assoc 4]
  calc (ofRank rank).high * q ≤ 8 * u * q := Nat.mul_le_mul_right q high
    _ = 2 * (4 * u * q) := by rw [← Nat.mul_assoc, ← Nat.mul_assoc]
    _ < 2 * p := Nat.mul_lt_mul_of_pos_left beyond (by decide)

/-- **The shortest decimal does not end in a zero**: where it would, the search had ended before. -/
theorem coefficient_shortest_mod (negative : Bool) (hr : rank ≠ 0) :
    (shortest negative rank).coefficient % 10 ≠ 0 := by
  obtain ⟨j, place, found, first⟩ := search_eq (exists_pick_top hr)
  rcases hs : (ofRank rank).search 20 (ofRank rank).top with ⟨d, k⟩
  rw [hs] at place found
  simp only at place found
  rw [shortest_eq hr hs]
  intro (ends : d % 10 = 0)
  obtain ⟨n, rfl⟩ := Nat.dvd_of_mod_eq_zero ends
  rw [← place] at found
  have inside : (ofRank rank).contains ⟨negative, n * 10, k⟩ = true := by
    rw [Nat.mul_comm]
    exact holds_pick found
  cases j with
  | zero =>
      -- at the top of the window there is no multiple of ten steps but zero, which lies below it
      have top : (ofRank rank).top = k := by omega
      have above := high_lt_top hr
      rw [top] at above
      obtain ⟨low, high⟩ := bounds_of_holds (holds_pick found)
      have positive := Nat.mul_pos (low_pos hr) (grid_pos k).2
      generalize (grid k).1 = p at *
      have steps : 10 * n * p < 2 * p := Nat.lt_of_le_of_lt high above
      have zero : n = 0 := by
        have := Nat.lt_of_mul_lt_mul_right steps
        omega
      rw [zero, Nat.mul_zero, Nat.zero_mul] at low
      exact absurd low (Nat.not_le.mpr positive)
  | succ j =>
      rw [contains_mul_ten] at inside
      obtain ⟨d, before⟩ := exists_pick_of_holds (low_lt_centre hr) (centre_lt_high rank) inside
      have earlier : k + 1 = (ofRank rank).top - (j : Int) := by omega
      rw [earlier, first j (Nat.lt_succ_self j)] at before
      cases before

end Window

/-! ### Zeros at the ends of digits -/

/-- Digits of a number do not start with a zero, unless the number is zero. -/
theorem eq_zero_of_head_natText (n : Nat) (h : (natText n).head? = some '0') : n = 0 := by
  induction n using Nat.strongRecOn with
  | ind n ih =>
      rw [natText] at h
      rcases Nat.lt_or_ge n 10 with one | more
      · have digits : ∀ k < 10, Nat.digitChar k = '0' → k = 0 := by decide
        rw [Nat.toDigits_of_lt_base one] at h
        exact digits n one (Option.some.inj h)
      · rw [Nat.toDigits_of_base_le (by decide) more,
          List.head?_append_of_ne_nil _ Nat.toDigits_ne_nil]
          at h
        have front : n / 10 = 0 := ih (n / 10) (by omega) h
        omega

theorem digitsValue_zero_last (cs : List Char) : digitsValue 0 (cs ++ ['0']) % 10 = 0 := by
  have zero : digitValue? '0' = some 0 := by decide
  rw [digitsValue, List.foldl_append, List.foldl_cons, List.foldl_nil, zero]
  exact Nat.mul_mod_right ..

/-! ### Spellings -/

/-- A number in digits: a minus or none, digits before the point and digits after it.  If there are
none after it, there is no point. -/
structure Spelling where
  negative : Bool
  whole : List Char
  fraction : List Char

namespace Spelling

/-- The text of a number in digits. -/
def text (p : Spelling) : List Char :=
  (if p.negative then ['-'] else []) ++
    (p.whole ++ if p.fraction.isEmpty then [] else '.' :: p.fraction)

/-- There are digits before the point, there is no zero too many before or after them, and no minus
before a zero. -/
structure IsCanonical (p : Spelling) : Prop where
  nonempty : p.whole ≠ []
  whole : ∀ c ∈ p.whole, c.isDigit = true
  fraction : ∀ c ∈ p.fraction, c.isDigit = true
  leading : p.whole.head? = some '0' → p.whole = ['0']
  trailing : p.fraction.getLast? ≠ some '0'
  minus : p.negative = true → p.whole = ['0'] → p.fraction ≠ []

end Spelling

/-- A whole number has a spelling without a point. -/
theorem exists_spelling_intText (i : Int) :
    ∃ p : Spelling, p.IsCanonical ∧ p.text = intText i ∧ p.fraction = [] := by
  have zero : natText i.natAbs = ['0'] → i.natAbs = 0 :=
    fun h => eq_zero_of_head_natText _ (by rw [h]; rfl)
  refine ⟨⟨decide (i < 0), natText i.natAbs, []⟩, ?_, ?_, rfl⟩
  · refine ⟨natText_ne_nil _, fun _ => isDigit_of_mem_natText, List.forall_mem_nil _, fun h => ?_,
      nofun, fun negative h => ?_⟩
    · rw [eq_zero_of_head_natText _ h]
      rfl
    · have := zero h
      have : i < 0 := of_decide_eq_true negative
      omega
  · rw [Spelling.text, intText]
    by_cases h : i < 0 <;> simp [h]

/-- Digits with a point among them or before them have one zero before the point or start with
another digit. -/
theorem leading_of_withPoint {n places : Nat} (hn : n ≠ 0) {whole fraction : List Char}
    (h : Decimal.withPoint (natText n) places = whole ++ '.' :: fraction) (hne : whole ≠ [])
    (hw : ∀ c ∈ whole, c.isDigit = true) : whole.head? = some '0' → whole = ['0'] := by
  intro zero
  rw [Decimal.withPoint] at h
  split at h
  · next inside =>
    refine absurd (eq_zero_of_head_natText n ?_) hn
    have first := congrArg List.head? h
    rw [List.head?_append_of_ne_nil _ hne, zero, List.head?_append_of_ne_nil, List.head?_take,
      if_neg (by omega)] at first
    · exact first
    · exact List.ne_nil_of_length_pos (by rw [List.length_take]; omega)
  · obtain ⟨c, cs, rfl⟩ := List.exists_cons_of_ne_nil hne
    cases cs with
    | nil => rw [Option.some.inj zero]
    | cons d ds =>
        -- the point is the second character, and no digit
        have point : '.' = d := by
          rw [List.cons_append, List.cons_append] at h
          exact (List.cons.inj (List.cons.inj h).2).1
        have digit := hw d (by simp)
        rw [← point] at digit
        cases digit

/-- A decimal with places has a spelling with as many, if it does not end in a zero. -/
theorem exists_spelling_fixed {d : Decimal} (hk : d.exponent < 0) (hc : d.coefficient % 10 ≠ 0) :
    ∃ p : Spelling, p.IsCanonical ∧ p.text = d.fixed ∧ p.fraction ≠ [] := by
  obtain ⟨whole, fraction, text, nonempty, wholes, fractions, places, value⟩ :=
    Decimal.withPoint_eq d.coefficient (-d.exponent).toNat
  have some : fraction ≠ [] := by
    rintro rfl
    rw [List.length_nil] at places
    omega
  refine ⟨⟨d.negative, whole, fraction⟩, ?_, ?_, some⟩
  · refine ⟨nonempty, wholes, fractions,
      leading_of_withPoint (fun zero => hc (by rw [zero])) text nonempty wholes, fun zero => hc ?_,
      fun _ _ => some⟩
    obtain ⟨front, rfl⟩ := List.getLast?_eq_some_iff.mp zero
    rw [← value, ← List.append_assoc]
    exact digitsValue_zero_last _
  · rw [Spelling.text, Decimal.fixed, Decimal.fixedMagnitude,
      if_neg (Int.not_le.mpr hk), text]
    simp [some]

/-! ### Finite numbers -/

namespace Binary64

variable {s : Bool} {r : Fin rankCount}

theorem isWhole_iff : isWhole (.finite s r) = true ↔ ∃ i, sameInt (.finite s r) i = true := by
  constructor
  · intro h
    obtain ⟨i, text⟩ := plainText_of_isWhole h
    exact ⟨i, sameInt_of_plainText text⟩
  · rintro ⟨i, h⟩
    exact isWhole_of_plainText (plainText_eq_of_sameInt h)

/-- The shortest decimal of a number that is not whole has places. -/
theorem exponent_shortest_neg (h : isWhole (.finite s r) = false) :
    (shortest s r).exponent < 0 := by
  obtain ⟨-, inside⟩ := plainText_of_not_isWhole h
  refine Int.not_le.mp fun whole => ?_
  rw [← Window.contains_settled, Decimal.settled, if_pos whole] at inside
  rw [isWhole, Window.units_mod_of_contains inside] at h
  cases h

/-- **The spelling of a finite number.**  It has a point if and only if the number is not whole; a
whole number is spelled as itself, and any other one as the decimal that it is shown as. -/
theorem exists_spelling (s : Bool) (r : Fin rankCount) : ∃ p : Spelling, p.IsCanonical ∧
    plainText (.finite s r) = p.text ∧
      (p.fraction = [] ↔ ∃ i, sameInt (.finite s r) i = true) ∧
      (∀ i, sameInt (.finite s r) i = true → scanDecimal p.text = some (Decimal.ofInt i, [])) ∧
      ((∀ i, sameInt (.finite s r) i = false) → ∃ d,
        scanDecimal (text (.finite s r)) = some (d, []) ∧ scanDecimal p.text = some (d, [])) := by
  cases hw : isWhole (.finite s r) with
  | true =>
      obtain ⟨i, whole⟩ := isWhole_iff.mp hw
      obtain ⟨p, canonical, text, none⟩ := exists_spelling_intText i
      refine ⟨p, canonical, (plainText_eq_of_sameInt whole).trans text.symm,
        iff_of_true none ⟨i, whole⟩, fun j same => ?_, fun other => ?_⟩
      · rw [text, ← plainText_eq_of_sameInt whole, plainText_eq_of_sameInt same, intText_eq_fixed,
          Decimal.scanDecimal_fixed, Decimal.ofInt, Decimal.settled_whole]
      · rw [other i] at whole
        cases whole
  | false =>
      have none : ¬ ∃ i, sameInt (.finite s r) i = true := by
        rw [← isWhole_iff, hw]
        exact Bool.false_ne_true
      have places := exponent_shortest_neg hw
      have some : r.val ≠ 0 := by
        intro zero
        rw [isWhole, zero, units_zero, Nat.zero_mod] at hw
        cases hw
      obtain ⟨p, canonical, text, point⟩ :=
        exists_spelling_fixed places (Window.coefficient_shortest_mod s some)
      refine ⟨p, canonical, (plainText_of_not_isWhole hw).1.trans text.symm,
        iff_of_false point none, fun i same => absurd ⟨i, same⟩ none,
        fun _ => ⟨shortest s r, ?_, ?_⟩⟩
      · have shown := scanDecimal_magnitudeText_eq (d := shortest s r)
          (fun both => absurd both.2 (Int.not_le.mpr places)) s
        have sign := negative_shortest s r
        rw [Binary64.text, shown]
        generalize shortest s r = d at sign ⊢
        rw [← sign]
      · rw [text, Decimal.scanDecimal_fixed, Decimal.settled, if_neg (Int.not_le.mpr places)]

end Binary64

end Postprocessor
