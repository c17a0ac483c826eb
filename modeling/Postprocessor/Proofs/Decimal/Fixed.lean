import Postprocessor.Proofs.Decimal.Scanning

/-!
# Proofs — decimals that are written in full

A decimal that is written in full is read back digit by digit.  What is lost is the power of ten of
a whole number, which is written as zeros; so a text tells which decimal it is written for but for
these zeros.

* `digitsValue_natText`: the digits of a natural number are read as that number.
* `Decimal.settled`: the decimal with the zeros of its power of ten in the coefficient.
* `scanDecimal_fixed`: the text of a decimal is read as the settled decimal.
* `intText_eq_fixed`: a whole number is written as a decimal is.
-/

namespace Postprocessor
open Text

/-! ### Digits -/

theorem digitValue?_of_isDigit {c : Char} (h : c.isDigit = true) :
    digitValue? c = some (c.toNat - 48) := by
  have ascii : c.toNat < 128 := by
    have bounds : 48 ≤ c.toNat ∧ c.toNat ≤ 57 := Char.isDigit_iff_toNat.mp h
    omega
  rw [digitValue?, if_pos ascii, if_pos h]

theorem isDigit_of_isDigit {c : Char} (h : c.isDigit = true) : isDigit c = true := by
  rw [isDigit, digitValue?_of_isDigit h, Option.isSome_some]

theorem digitsValue_eq {cs : List Char} (h : ∀ c ∈ cs, c.isDigit = true) (n : Nat) :
    digitsValue n cs = Nat.ofDigitChars 10 cs n := by
  induction cs generalizing n with
  | nil => rfl
  | cons c cs ih =>
      obtain ⟨first, others⟩ := List.forall_mem_cons.mp h
      rw [Nat.ofDigitChars_cons, ← ih others, digitsValue, List.foldl_cons,
        digitValue?_of_isDigit first]
      rfl

theorem isDigit_of_mem_natText {n : Nat} {c : Char} (h : c ∈ natText n) : c.isDigit = true :=
  Nat.isDigit_of_mem_toDigits (by decide) (by decide) h

theorem natText_ne_nil (n : Nat) : natText n ≠ [] := Nat.toDigits_ne_nil

theorem isDigit_of_mem_zeros {k : Nat} {c : Char} (h : c ∈ List.replicate k '0') :
    c.isDigit = true := by
  rw [(List.mem_replicate.mp h).2]
  decide

/-- The digits of a natural number are read as that number. -/
theorem digitsValue_natText (n : Nat) : digitsValue 0 (natText n) = n := by
  rw [digitsValue_eq fun _ => isDigit_of_mem_natText]
  exact Nat.ofDigitChars_ten_toDigits

theorem areDigits_natText_zeros (n k : Nat) :
    ∀ c ∈ natText n ++ List.replicate k '0', c.isDigit = true :=
  List.forall_mem_append.mpr ⟨fun _ => isDigit_of_mem_natText, fun _ => isDigit_of_mem_zeros⟩

theorem areDigits_zeros_natText (k n : Nat) :
    ∀ c ∈ List.replicate k '0' ++ natText n, c.isDigit = true :=
  List.forall_mem_append.mpr ⟨fun _ => isDigit_of_mem_zeros, fun _ => isDigit_of_mem_natText⟩

/-- Zeros after a number multiply it. -/
theorem digitsValue_natText_zeros (n k : Nat) :
    digitsValue 0 (natText n ++ List.replicate k '0') = n * 10 ^ k := by
  rw [digitsValue_eq (areDigits_natText_zeros n k), Nat.ofDigitChars_append, natText, Nat.ofDigitChars_ten_toDigits,
    Nat.ofDigitChars_replicate_zero, Nat.mul_comm]

/-- Zeros before a number change nothing. -/
theorem digitsValue_zeros_natText (k n : Nat) :
    digitsValue 0 (List.replicate k '0' ++ natText n) = n := by
  rw [digitsValue_eq (areDigits_zeros_natText k n), Nat.ofDigitChars_append,
    Nat.ofDigitChars_replicate_zero, Nat.mul_zero]
  exact Nat.ofDigitChars_ten_toDigits

/-! ### Decimals -/

theorem scanSign_signed {cs : List Char} (h : IsUnsigned cs) (negative : Bool) :
    scanSign ((if negative then ['-'] else []) ++ cs) = (negative, cs) := by
  cases negative with
  | true => rfl
  | false => exact scanSign_of_isUnsigned h

/-- A number with a sign, digits before a point and digits after it. -/
theorem scanDecimal_point {whole fraction : List Char} (hw : ∀ c ∈ whole, c.isDigit = true)
    (hne : whole ≠ []) (hf : ∀ c ∈ fraction, c.isDigit = true) (negative : Bool) :
    scanDecimal ((if negative then ['-'] else []) ++ (whole ++ '.' :: fraction)) =
      some (⟨negative, digitsValue 0 (whole ++ fraction), -fraction.length⟩, []) := by
  have unsigned := isUnsigned_append hne (fun c hc => isDigit_of_isDigit (hw c hc)) ('.' :: fraction)
  have mantissa := scanMantissa_point (fun c hc => isDigit_of_isDigit (hw c hc))
    (fun c hc => isDigit_of_isDigit (hf c hc)) (by simp [hne]) (nofun : EndsDigits [])
  rw [List.append_nil] at mantissa
  rw [scanDecimal, scanSign_signed unsigned]
  simp [mantissa, scanExponent]

/-- A number with a sign and digits. -/
theorem scanDecimal_whole {whole : List Char} (hw : ∀ c ∈ whole, c.isDigit = true)
    (hne : whole ≠ []) (negative : Bool) :
    scanDecimal ((if negative then ['-'] else []) ++ whole) =
      some (⟨negative, digitsValue 0 whole, 0⟩, []) := by
  have digits := fun c hc => isDigit_of_isDigit (hw c hc)
  have unsigned := isUnsigned_append hne digits []
  have mantissa := scanMantissa_whole digits (by simp [hne]) (nofun : EndsMantissa [])
  rw [List.append_nil] at unsigned mantissa
  rw [scanDecimal, scanSign_signed unsigned]
  simp [mantissa, scanExponent]

namespace Decimal

/-- The decimal with the zeros of its power of ten in the coefficient. -/
def settled (d : Decimal) : Decimal :=
  if 0 ≤ d.exponent then ⟨d.negative, d.coefficient * 10 ^ d.exponent.toNat, 0⟩ else d

theorem settled_whole (negative : Bool) (n : Nat) :
    settled ⟨negative, n, 0⟩ = ⟨negative, n, 0⟩ := by
  simp [settled]

/-- The digits of a number with a point in them, or zeros before them. -/
theorem withPoint_eq (n places : Nat) : ∃ whole fraction : List Char,
    withPoint (natText n) places = whole ++ '.' :: fraction ∧ whole ≠ [] ∧
      (∀ c ∈ whole, c.isDigit = true) ∧ (∀ c ∈ fraction, c.isDigit = true) ∧
      fraction.length = places ∧ digitsValue 0 (whole ++ fraction) = n := by
  rw [withPoint]
  split
  · next inside =>
      refine ⟨_, _, rfl, ?_, fun c hc => isDigit_of_mem_natText (List.mem_of_mem_take hc),
        fun c hc => isDigit_of_mem_natText (List.mem_of_mem_drop hc), ?_, ?_⟩
      · exact List.ne_nil_of_length_pos (by rw [List.length_take]; omega)
      · rw [List.length_drop]
        omega
      · rw [List.take_append_drop, digitsValue_natText]
  · next outside =>
      refine ⟨['0'], List.replicate (places - (natText n).length) '0' ++ natText n, rfl, by simp,
        by simp, areDigits_zeros_natText _ n, ?_, digitsValue_zeros_natText _ n⟩
      rw [List.length_append, List.length_replicate]
      omega

/-- **A decimal that is written in full is read back**, with the zeros of its power of ten. -/
theorem scanDecimal_fixed (d : Decimal) : scanDecimal d.fixed = some (d.settled, []) := by
  obtain ⟨negative, coefficient, exponent⟩ := d
  by_cases h : 0 ≤ exponent
  · have nonempty := List.append_ne_nil_of_left_ne_nil (natText_ne_nil coefficient)
      (List.replicate exponent.toNat '0')
    rw [fixed, fixedMagnitude, settled, if_pos h, if_pos h,
      scanDecimal_whole (areDigits_natText_zeros _ _) nonempty, digitsValue_natText_zeros]
  · obtain ⟨whole, fraction, text, nonempty, wholes, fractions, places, value⟩ :=
      withPoint_eq coefficient (-exponent).toNat
    have exponents : -((-exponent).toNat : Int) = exponent := by omega
    rw [fixed, fixedMagnitude, settled, if_neg h, if_neg h, text,
      scanDecimal_point wholes nonempty fractions, value, places, exponents]

/-- A text is written for one decimal, but for zeros at its end. -/
theorem settled_eq_of_fixed {d d' : Decimal} (h : d.fixed = d'.fixed) : d.settled = d'.settled := by
  have read := scanDecimal_fixed d
  rw [h, scanDecimal_fixed] at read
  exact congrArg Prod.fst (Option.some.inj read).symm

end Decimal

/-! ### Whole numbers -/

/-- A whole number as a decimal. -/
def Decimal.ofInt (i : Int) : Decimal := ⟨decide (i < 0), i.natAbs, 0⟩

theorem intText_eq_fixed (i : Int) : intText i = (Decimal.ofInt i).fixed := by
  have digits : Decimal.fixedMagnitude i.natAbs 0 = natText i.natAbs := by
    simp [Decimal.fixedMagnitude]
  rw [intText, Decimal.fixed, Decimal.ofInt, digits]
  by_cases h : i < 0 <;> simp [h]

theorem intText_injective {i j : Int} (h : intText i = intText j) : i = j := by
  rw [intText_eq_fixed, intText_eq_fixed] at h
  have same := Decimal.settled_eq_of_fixed h
  rw [Decimal.ofInt, Decimal.ofInt, Decimal.settled_whole, Decimal.settled_whole,
    Decimal.mk.injEq, decide_eq_decide] at same
  omega

end Postprocessor
