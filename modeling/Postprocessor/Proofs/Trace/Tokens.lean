import Mathlib.Data.List.DropRight
import Postprocessor.Proofs.Decimal.Rounding
import Postprocessor.Value

/-!
# Proofs — tokens that are numbers

A bare token is a number if it has the form of one, but for letters at its end.  Where the number
ends is never in doubt: it ends in a digit or a point, and what follows it are letters, so that an
exponent without digits is part of the unit.

* `withoutUnit`: the token without the letters at its end.
* `HasNumberForm.exists_scanDecimal`: a number is scanned up to its unit.
* `ofToken_eq_float_iff`: the tokens that are read as a number, and the number.
* `exists_same_ofToken`: a finite number that is written with a unit is read back.
* `numbers_and_units`: the two together, and that the unit does not matter.
-/

namespace Postprocessor
open Text

/-! ### Letters -/

theorem bounds_of_isAlpha {c : Char} (h : c.isAlpha = true) : 65 ≤ c.toNat ∧ c.toNat ≤ 122 := by
  have letter : (c.isUpper || c.isLower) = true := h
  rcases Bool.or_eq_true_iff.mp letter with upper | lower
  · obtain ⟨low, high⟩ : 'A'.val ≤ c.val ∧ c.val ≤ 'Z'.val := of_decide_eq_true upper
    exact ⟨low, Nat.le_trans high (by decide)⟩
  · obtain ⟨low, high⟩ : decide ('a'.val ≤ c.val) = true ∧ decide (c.val ≤ 'z'.val) = true :=
      Bool.and_eq_true_iff.mp lower
    exact ⟨Nat.le_trans (by decide) (of_decide_eq_true low), of_decide_eq_true high⟩

theorem not_isDigit_of_isAlpha {c : Char} (h : c.isAlpha = true) : isDigit c = false := by
  obtain ⟨low, high⟩ := bounds_of_isAlpha h
  have other : c.isDigit = false :=
    Bool.eq_false_iff.mpr fun digit => absurd (Char.isDigit_iff_toNat.mp digit).2 (by simp; omega)
  rw [isDigit, digitValue?, if_pos (by omega), other]
  rfl

theorem not_isBlank_of_isAlpha {c : Char} (h : c.isAlpha = true) : isBlank c = false := by
  obtain ⟨low, high⟩ := bounds_of_isAlpha h
  refine Bool.eq_false_iff.mpr fun blank => ?_
  simp [isBlank, CharSet.contains, blankTable] at blank
  omega

namespace Trace

variable {cs number unit token : List Char}

/-- The text consists of letters. -/
def IsUnit (cs : List Char) : Prop := ∀ c ∈ cs, isUnitLetter c = true

theorem IsUnit.endsDigits (h : IsUnit cs) : EndsDigits cs :=
  fun c hc => not_isDigit_of_isAlpha (h c (List.mem_of_mem_head? hc))

theorem IsUnit.ne (h : IsUnit cs) {c : Char} (hc : c ∈ cs) : c ≠ '.' ∧ c ≠ '+' ∧ c ≠ '-' := by
  have letter := h c hc
  refine ⟨?_, ?_, ?_⟩ <;> rintro rfl <;> exact absurd letter (by decide)

theorem IsUnit.endsMantissa (h : IsUnit cs) : EndsMantissa cs :=
  fun c hc => ⟨h.endsDigits c hc, (h.ne (List.mem_of_mem_head? hc)).1⟩

theorem IsUnit.isUnsigned (h : IsUnit cs) : IsUnsigned cs :=
  fun _ hc => (h.ne (List.mem_of_mem_head? hc)).2

/-- No power of ten is scanned in letters. -/
theorem IsUnit.scanExponent (h : IsUnit cs) : scanExponent cs = (0, cs) := by
  cases cs with
  | nil => rfl
  | cons c cs =>
      have later : IsUnit cs := fun d hd => h d (List.mem_cons_of_mem _ hd)
      have none : scanDigits cs = ([], cs) :=
        scanDigits_append (List.forall_mem_nil _) later.endsDigits
      rw [Postprocessor.scanExponent]
      split
      · simp only [scanSign_of_isUnsigned later.isUnsigned, none]
        rfl
      · rfl

end Trace

/-! ### Where a number ends -/

section Parts

variable {cs sign mantissa power unit : List Char}
open Trace

theorem IsSign.exists_scanSign (h : IsSign sign) :
    ∃ negative, ∀ more, IsUnsigned more → scanSign (sign ++ more) = (negative, more) := by
  rcases h with rfl | rfl | rfl
  · exact ⟨false, fun _ hm => scanSign_of_isUnsigned hm⟩
  · exact ⟨false, fun _ _ => rfl⟩
  · exact ⟨true, fun _ _ => rfl⟩

theorem IsMantissa.exists_scanMantissa (h : IsMantissa mantissa) :
    (∀ more, IsUnsigned (mantissa ++ more)) ∧ ∃ whole fraction, ∀ more, EndsMantissa more →
      scanMantissa (mantissa ++ more) = some (whole, fraction, more) := by
  cases h with
  | @digits whole point fraction hne hw hp hf =>
      refine ⟨fun more => ?_, ?_⟩
      · rw [List.append_assoc, List.append_assoc]
        exact isUnsigned_append hne hw _
      rcases hp with rfl | rfl
      · rw [List.append_nil]
        exact ⟨whole ++ fraction, [], fun more hm =>
          scanMantissa_whole (List.forall_mem_append.mpr ⟨hw, hf⟩) (by simp [hne]) hm⟩
      · refine ⟨whole, fraction, fun more hm => ?_⟩
        rw [List.append_assoc, List.append_assoc]
        exact scanMantissa_point hw hf (by simp [hne]) fun c hc => (hm c hc).1
  | @point fraction hne hf =>
      refine ⟨fun more c hc => ?_, [], fraction, fun more hm => ?_⟩
      · obtain rfl : '.' = c := Option.some.inj hc
        decide
      · exact scanMantissa_point (List.forall_mem_nil _) hf (by simp [hne]) fun c hc => (hm c hc).1

theorem IsPower.exists_scanExponent (h : IsPower power) :
    ∃ e, ∀ unit, IsUnit unit → EndsMantissa (power ++ unit) ∧
      scanExponent (power ++ unit) = (e, unit) := by
  cases h with
  | none => exact ⟨0, fun unit hu => ⟨hu.endsMantissa, hu.scanExponent⟩⟩
  | @some letter sign ds hl hs hne hd =>
      obtain ⟨negative, signed⟩ := hs.exists_scanSign
      refine ⟨if negative then -(digitsValue 0 ds : Int) else digitsValue 0 ds,
        fun unit hu => ⟨?_, ?_⟩⟩
      · intro c hc
        obtain rfl : letter = c := Option.some.inj hc
        rcases hl with rfl | rfl <;> decide
      · rw [List.cons_append, List.append_assoc]
        exact scanExponent_letter (by simpa using hl) (signed _ (isUnsigned_append hne hd unit)) hd
          (by simpa using hne) hu.endsDigits

/-- **A number is scanned up to its unit**, and the unit has no influence on it. -/
theorem HasNumberForm.exists_scanDecimal (h : HasNumberForm cs) :
    ∃ d, ∀ unit, IsUnit unit → scanDecimal (cs ++ unit) = some (d, unit) := by
  obtain ⟨sign, mantissa, power, hs, hm, hp, rfl⟩ := h
  obtain ⟨negative, signed⟩ := hs.exists_scanSign
  obtain ⟨unsigned, whole, fraction, scanned⟩ := hm.exists_scanMantissa
  obtain ⟨e, ended⟩ := hp.exists_scanExponent
  refine ⟨⟨negative, digitsValue 0 (whole ++ fraction), e - fraction.length⟩, fun unit hu => ?_⟩
  obtain ⟨ends, raised⟩ := ended unit hu
  rw [List.append_assoc, List.append_assoc, scanDecimal, signed _ (unsigned _)]
  simp only [scanned _ ends, raised]

theorem not_isUnitLetter_of_isDigit {c : Char} (h : isDigit c = true) : isUnitLetter c = false := by
  refine Bool.eq_false_iff.mpr fun letter => ?_
  rw [not_isDigit_of_isAlpha letter] at h
  cases h

theorem IsMantissa.last (h : IsMantissa mantissa) :
    mantissa ≠ [] ∧ ∀ c ∈ mantissa, isUnitLetter c = false := by
  have point : isUnitLetter '.' = false := by decide
  cases h with
  | digits hne hw hp hf =>
      refine ⟨by simp [hne], List.forall_mem_append.mpr ⟨List.forall_mem_append.mpr
        ⟨fun c hc => not_isUnitLetter_of_isDigit (hw c hc), ?_⟩,
        fun c hc => not_isUnitLetter_of_isDigit (hf c hc)⟩⟩
      rcases hp with rfl | rfl
      · exact List.forall_mem_nil _
      · exact List.forall_mem_singleton.mpr point
  | point hne hf =>
      exact ⟨List.cons_ne_nil _ _,
        List.forall_mem_cons.mpr ⟨point, fun c hc => not_isUnitLetter_of_isDigit (hf c hc)⟩⟩

/-- A number does not end in a letter. -/
theorem HasNumberForm.not_isUnitLetter_last (h : HasNumberForm cs) :
    ∃ c ∈ cs.getLast?, isUnitLetter c = false := by
  obtain ⟨sign, mantissa, power, -, hm, hp, rfl⟩ := h
  obtain ⟨some, inner⟩ := hm.last
  cases hp with
  | none =>
      rw [List.append_nil, List.getLast?_append_of_ne_nil _ some]
      exact ⟨_, List.getLast?_eq_some_getLast some, inner _ (List.getLast_mem some)⟩
  | @some letter sign' ds hl hs hne hd =>
      have split : sign ++ (mantissa ++ letter :: (sign' ++ ds)) =
          (sign ++ (mantissa ++ letter :: sign')) ++ ds := by simp
      rw [split, List.getLast?_append_of_ne_nil _ hne]
      exact ⟨_, List.getLast?_eq_some_getLast hne,
        not_isUnitLetter_of_isDigit (hd _ (List.getLast_mem hne))⟩

end Parts

/-! ### Tokens -/

namespace Trace

variable {number unit token : List Char} {d : Decimal} {x : Binary64}

/-- The token without the letters at its end. -/
def withoutUnit (token : List Char) : List Char := token.rdropWhile isUnitLetter

theorem exists_unit (token : List Char) : ∃ unit, IsUnit unit ∧ token = withoutUnit token ++ unit :=
  ⟨token.rtakeWhile isUnitLetter, fun _ => List.mem_rtakeWhile_imp,
    List.rdropWhile_append_rtakeWhile.symm⟩

theorem withoutUnit_append (hu : IsUnit unit) (cs : List Char) :
    withoutUnit (cs ++ unit) = withoutUnit cs := by
  induction unit using List.reverseRecOn with
  | nil => rw [List.append_nil]
  | append_singleton unit c ih =>
      obtain ⟨front, last⟩ := List.forall_mem_append.mp hu
      rw [← List.append_assoc, withoutUnit,
        List.rdropWhile_concat_pos _ _ _ (last c (List.mem_singleton_self c))]
      exact ih front

/-- The unit of a number is all that follows it. -/
theorem withoutUnit_of_hasNumberForm (h : HasNumberForm number) (hu : IsUnit unit) :
    withoutUnit (number ++ unit) = number := by
  obtain ⟨c, ends, other⟩ := h.not_isUnitLetter_last
  obtain ⟨front, rfl⟩ := List.getLast?_eq_some_iff.mp ends
  rw [withoutUnit_append hu, withoutUnit, List.rdropWhile_concat_neg _ _ _ (by simp [other])]

theorem dropLineFeed_of_not_isBlank (h : ∀ c ∈ token, isBlank c = false) :
    dropLineFeed token = token := by
  refine if_neg fun ends => ?_
  have blank := h '\n' (List.mem_of_getLast? ends)
  cases blank

/-- **The number of a token** is what stands before its unit, which has the form of a number. -/
theorem numeral?_eq_some_iff (h : ∀ c ∈ token, isBlank c = false) : numeral? token = some d ↔
    HasNumberForm (withoutUnit token) ∧ scanDecimal (withoutUnit token) = some (d, []) := by
  rw [numeral?, dropLineFeed_of_not_isBlank h]
  constructor
  · intro found
    split at found
    · next d' rest scanned =>
      split at found
      · next letters =>
        cases found
        obtain ⟨number, rfl, form, alone⟩ := scanDecimal_eq scanned
        rw [withoutUnit_of_hasNumberForm form (List.all_eq_true.mp letters)]
        exact ⟨form, alone⟩
      · cases found
    · cases found
  · rintro ⟨form, alone⟩
    obtain ⟨unit, letters, split⟩ := exists_unit token
    obtain ⟨d', scanned⟩ := form.exists_scanDecimal
    have same := scanned [] (List.forall_mem_nil _)
    rw [List.append_nil, alone] at same
    cases same
    have whole := scanned unit letters
    rw [← split] at whole
    rw [whole]
    exact if_pos (List.all_eq_true.mpr letters)

/-- Only what has the form of a number is read as one. -/
theorem ofToken_eq_float : Value.ofToken token = .float x ↔
    ∃ d, numeral? token = some d ∧ d.toBinary64 = x := by
  have truth : numeral? "true".toList = none ∧ numeral? "false".toList = none := by decide +kernel
  rw [Value.ofToken]
  split
  · next word =>
    rw [word, truth.1]
    exact ⟨nofun, nofun⟩
  split
  · next word =>
    rw [word, truth.2]
    exact ⟨nofun, nofun⟩
  split
  · next d found => simp [found]
  · next none =>
    rw [none]
    refine ⟨fun other => ?_, nofun⟩
    split at other <;> cases other

/-- **The number of a token** is what is read in full before its unit. -/
theorem ofToken_eq_float_iff (h : ∀ c ∈ token, isBlank c = false) : Value.ofToken token = .float x ↔
    HasNumberForm (withoutUnit token) ∧ Binary64.ofText? (withoutUnit token) = some x := by
  rw [ofToken_eq_float]
  constructor
  · rintro ⟨d, found, rfl⟩
    obtain ⟨form, alone⟩ := (numeral?_eq_some_iff h).mp found
    exact ⟨form, ofText?_of_scanDecimal alone⟩
  · rintro ⟨form, number⟩
    obtain ⟨d, scanned⟩ := form.exists_scanDecimal
    have alone := scanned [] (List.forall_mem_nil _)
    rw [List.append_nil] at alone
    rw [ofText?_of_scanDecimal alone] at number
    exact ⟨d, (numeral?_eq_some_iff h).mpr ⟨form, alone⟩, Option.some.inj number⟩

/-- What has the form of a number is read as one. -/
theorem exists_ofText? (h : HasNumberForm number) : ∃ x, Binary64.ofText? number = some x := by
  obtain ⟨d, scanned⟩ := h.exists_scanDecimal
  have alone := scanned [] (List.forall_mem_nil _)
  rw [List.append_nil] at alone
  exact ⟨_, ofText?_of_scanDecimal alone⟩

theorem not_isBlank_append (hn : ∀ c ∈ number, isBlank c = false) (hu : IsUnit unit) :
    ∀ c ∈ number ++ unit, isBlank c = false :=
  List.forall_mem_append.mpr ⟨hn, fun c hc => not_isBlank_of_isAlpha (hu c hc)⟩

/-- A finite number that is written with a unit is read back. -/
theorem exists_same_ofToken (s : Bool) (r : Fin rankCount) (hu : IsUnit unit) :
    ∃ text y, (Value.float (.finite s r)).plain = .ok text ∧
      Value.ofToken (text.toList ++ unit) = .float y ∧ y.same (.finite s r) = true := by
  obtain ⟨d, alone, same⟩ := Binary64.scanDecimal_plainText s r
  obtain ⟨number, split, form, -⟩ := scanDecimal_eq alone
  rw [List.append_nil] at split
  have solid := not_isBlank_append (fun c hc => not_isBlank_of_isNumeral (form.isNumeral c hc)) hu
  refine ⟨_, _, rfl, ?_, same⟩
  rw [String.toList_ofList, split, ofToken_eq_float_iff solid, withoutUnit_of_hasNumberForm form hu,
    ← split]
  exact ⟨split ▸ form, ofText?_of_scanDecimal alone⟩

/-- **Numbers and units.**  A token is read as a number if and only if it has the form of one before
the letters at its end, and it is the number that this part is read as in full; letters that are
added or exchanged at its end do not matter; and a finite number that is written in digits with any
letters after it is read back. -/
theorem numbers_and_units :
    (∀ token : List Char, (∀ c ∈ token, isBlank c = false) →
      ((∃ x, Value.ofToken token = .float x) ↔ HasNumberForm (withoutUnit token)) ∧
        ∀ x, Value.ofToken token = .float x → Binary64.ofText? (withoutUnit token) = some x) ∧
      (∀ (number unit unit' : List Char) (x : Binary64), (∀ c ∈ number, isBlank c = false) →
        IsUnit unit → IsUnit unit' → Value.ofToken (number ++ unit) = .float x →
          Value.ofToken (number ++ unit') = .float x) ∧
      ∀ (s : Bool) (r : Fin rankCount) (unit : List Char), IsUnit unit →
        ∃ text y, (Value.float (.finite s r)).plain = .ok text ∧
          Value.ofToken (text.toList ++ unit) = .float y ∧ y.same (.finite s r) = true := by
  refine ⟨fun token solid => ⟨⟨?_, fun form => ?_⟩, fun x h => ?_⟩, ?_,
    fun s r unit => exists_same_ofToken s r⟩
  · rintro ⟨x, h⟩
    exact ((ofToken_eq_float_iff solid).mp h).1
  · obtain ⟨x, number⟩ := exists_ofText? form
    exact ⟨x, (ofToken_eq_float_iff solid).mpr ⟨form, number⟩⟩
  · exact ((ofToken_eq_float_iff solid).mp h).2
  · intro number unit unit' x solid hu hu' h
    rw [ofToken_eq_float_iff (not_isBlank_append solid hu), withoutUnit_append hu] at h
    rwa [ofToken_eq_float_iff (not_isBlank_append solid hu'), withoutUnit_append hu']

/-- A speed with an exponent and a unit that starts like one, the same with another unit, and the
least positive number with a unit. -/
theorem numbers_and_units_speed :
    (∀ c ∈ "+8.e3em".toList, isBlank c = false) ∧ HasNumberForm (withoutUnit "+8.e3em".toList) ∧
      (∃ x, Value.ofToken "+8.e3em".toList = .float x ∧ Binary64.ofText? "+8.e3".toList = some x ∧
        Value.ofToken "+8.e3rpm".toList = .float x) ∧
      IsUnit "mm".toList ∧ ∃ text y, (Value.float (.finite false ⟨1, by decide⟩)).plain = .ok text ∧
        Value.ofToken (text.toList ++ "mm".toList) = .float y ∧
          y.same (.finite false ⟨1, by decide⟩) = true := by
  have solid : ∀ c ∈ "+8.e3em".toList, isBlank c = false := by
    have solid : "+8.e3em".toList.all (!isBlank ·) = true := by decide
    simpa using List.all_eq_true.mp solid
  have letters : IsUnit "em".toList ∧ IsUnit "rpm".toList ∧ IsUnit "mm".toList := by
    refine ⟨?_, ?_, ?_⟩ <;> exact List.all_eq_true.mp (by decide)
  have core : withoutUnit "+8.e3em".toList = "+8.e3".toList := by decide
  have form : HasNumberForm (withoutUnit "+8.e3em".toList) := by
    have digits : IsMantissa (['8'] ++ ['.'] ++ []) :=
      .digits (by decide) (List.all_eq_true.mp rfl) (.inr rfl) (List.forall_mem_nil _)
    have power : IsPower ('e' :: ([] ++ ['3'])) :=
      .some (.inl rfl) (.inl rfl) (by decide) (List.all_eq_true.mp rfl)
    exact core ▸ ⟨['+'], _, _, .inr (.inl rfl), digits, power, rfl⟩
  obtain ⟨tokens, exchange, back⟩ := numbers_and_units
  obtain ⟨x, number⟩ := (tokens _ solid).1.mpr form
  have inner : ∀ c ∈ "+8.e3".toList, isBlank c = false := by
    have inner : "+8.e3".toList.all (!isBlank ·) = true := by decide
    simpa using List.all_eq_true.mp inner
  exact ⟨solid, form, ⟨x, number, core ▸ (tokens _ solid).2 x number,
    exchange "+8.e3".toList "em".toList "rpm".toList x inner letters.1 letters.2.1 number⟩,
    letters.2.2, back _ _ _ letters.2.2⟩

end Trace

end Postprocessor
