import Postprocessor.Proofs.Text.Lines
import Postprocessor.Trace.Token

/-!
# Proofs — the numbers of a trace

A number that a text starts with is a number by itself: what was scanned, scanned again with nothing
after it, yields the same number.  So whatever a trace takes for a number can be read as one.

* `IsNumeral`: the characters of a number.
* `HasNumberForm`: the form of a number, a sign, digits with a point and a power of ten.
* `scanSign_eq`, `scanMantissa_eq`, `scanExponent_eq`: the parts of a number, each with a condition
  on what may follow.
* `scanDecimal_eq`: what was scanned has the form of a number and is one by itself.
* `ofText?_of_scanDecimal`: a number and nothing else is read in full.
* `ofText?_of_numeral?`: a numeral of a trace is a number and letters after it.
-/

namespace Postprocessor
open Text

/-- A character of a number. -/
def IsNumeral (c : Char) : Prop :=
  isDigit c = true ∨ c = '+' ∨ c = '-' ∨ c = '.' ∨ c = 'e' ∨ c = 'E'

/-- No digits go on in the text. -/
def EndsDigits (cs : List Char) : Prop := ∀ c ∈ cs.head?, isDigit c = false

/-- The text starts with no sign. -/
def IsUnsigned (cs : List Char) : Prop := ∀ c ∈ cs.head?, c ≠ '+' ∧ c ≠ '-'

/-- Neither digits nor a point go on in the text. -/
def EndsMantissa (cs : List Char) : Prop := ∀ c ∈ cs.head?, isDigit c = false ∧ c ≠ '.'

variable {cs ds rest more whole fraction : List Char}

/-! ### The form of a number -/

/-- A sign, or none. -/
def IsSign (cs : List Char) : Prop := cs = [] ∨ cs = ['+'] ∨ cs = ['-']

/-- Digits with or without a point after them or among them, or a point and digits. -/
inductive IsMantissa : List Char → Prop
  | digits {whole point fraction : List Char} (hne : whole ≠ [])
      (hw : ∀ d ∈ whole, isDigit d = true) (hp : point = [] ∨ point = ['.'])
      (hf : ∀ d ∈ fraction, isDigit d = true) : IsMantissa (whole ++ point ++ fraction)
  | point {fraction : List Char} (hne : fraction ≠ []) (hf : ∀ d ∈ fraction, isDigit d = true) :
      IsMantissa ('.' :: fraction)

/-- The letter, a sign and digits of a power of ten, or nothing. -/
inductive IsPower : List Char → Prop
  | none : IsPower []
  | some {letter : Char} {sign ds : List Char} (hl : letter = 'e' ∨ letter = 'E')
      (hs : IsSign sign) (hne : ds ≠ []) (hd : ∀ d ∈ ds, isDigit d = true) :
      IsPower (letter :: (sign ++ ds))

/-- A sign, digits with a point and a power of ten. -/
def HasNumberForm (cs : List Char) : Prop :=
  ∃ sign mantissa power, IsSign sign ∧ IsMantissa mantissa ∧ IsPower power ∧
    cs = sign ++ (mantissa ++ power)

theorem IsSign.isNumeral (h : IsSign cs) : ∀ c ∈ cs, IsNumeral c := by
  rcases h with rfl | rfl | rfl <;> simp [IsNumeral]

theorem IsMantissa.isNumeral (h : IsMantissa cs) : ∀ c ∈ cs, IsNumeral c := by
  have point : IsNumeral '.' := .inr (.inr (.inr (.inl rfl)))
  cases h with
  | digits hne hw hp hf =>
      refine List.forall_mem_append.mpr
        ⟨List.forall_mem_append.mpr ⟨fun c hc => .inl (hw c hc), ?_⟩, fun c hc => .inl (hf c hc)⟩
      rcases hp with rfl | rfl
      · exact List.forall_mem_nil _
      · exact List.forall_mem_singleton.mpr point
  | point hne hf => exact List.forall_mem_cons.mpr ⟨point, fun c hc => .inl (hf c hc)⟩

theorem IsPower.isNumeral (h : IsPower cs) : ∀ c ∈ cs, IsNumeral c := by
  cases h with
  | none => exact List.forall_mem_nil _
  | some hl hs hne hd =>
      exact List.forall_mem_cons.mpr ⟨.inr (.inr (.inr (.inr hl))),
        List.forall_mem_append.mpr ⟨hs.isNumeral, fun c hc => .inl (hd c hc)⟩⟩

theorem HasNumberForm.isNumeral (h : HasNumberForm cs) : ∀ c ∈ cs, IsNumeral c := by
  obtain ⟨sign, mantissa, power, hs, hm, hp, rfl⟩ := h
  exact List.forall_mem_append.mpr
    ⟨hs.isNumeral, List.forall_mem_append.mpr ⟨hm.isNumeral, hp.isNumeral⟩⟩

/-! ### Parts of a number -/

theorem isUnsigned_of_isDigit {c : Char} (h : isDigit c = true) (cs : List Char) :
    IsUnsigned (c :: cs) := by
  intro d hd
  obtain rfl := Option.some.inj hd
  constructor <;> rintro rfl <;> exact absurd h (by decide)

theorem scanDigits_append (hd : ∀ d ∈ ds, isDigit d = true) (hm : EndsDigits more) :
    scanDigits (ds ++ more) = (ds, more) := by
  rw [scanDigits, List.takeWhile_append_of_pos hd, List.dropWhile_append_of_pos hd]
  cases more with
  | nil => simp
  | cons c more =>
      have stop : ¬ isDigit c = true := by simp [hm c rfl]
      rw [List.takeWhile_cons_of_neg stop, List.dropWhile_cons_of_neg stop, List.append_nil]

theorem scanDigits_eq (h : scanDigits cs = (ds, rest)) :
    cs = ds ++ rest ∧ (∀ d ∈ ds, isDigit d = true) ∧ EndsDigits rest := by
  cases h
  refine ⟨List.takeWhile_append_dropWhile.symm, List.all_eq_true.mp List.all_takeWhile, ?_⟩
  intro c hc
  have head := List.head?_dropWhile_not isDigit cs
  rw [Option.mem_def.mp hc] at head
  simpa using head

theorem scanSign_of_isUnsigned (h : IsUnsigned cs) : scanSign cs = (false, cs) := by
  rw [scanSign.eq_def]
  split
  · exact absurd rfl (h '-' rfl).2
  · exact absurd rfl (h '+' rfl).1
  · rfl

theorem scanSign_eq {negative : Bool} (h : scanSign cs = (negative, rest)) :
    ∃ sign, cs = sign ++ rest ∧ IsSign sign ∧
      ∀ more, IsUnsigned more → scanSign (sign ++ more) = (negative, more) := by
  rw [scanSign.eq_def] at h
  split at h <;> cases h
  · exact ⟨['-'], rfl, .inr (.inr rfl), fun _ _ => rfl⟩
  · exact ⟨['+'], rfl, .inr (.inl rfl), fun _ _ => rfl⟩
  · exact ⟨[], rfl, .inl rfl, fun more hm => scanSign_of_isUnsigned hm⟩

theorem isUnsigned_append (hne : ds ≠ []) (hd : ∀ d ∈ ds, isDigit d = true) (more : List Char) :
    IsUnsigned (ds ++ more) := by
  obtain ⟨d, ds, rfl⟩ := List.exists_cons_of_ne_nil hne
  exact isUnsigned_of_isDigit (hd d (List.mem_cons_self ..)) _

/-- A point after some digits, or after none. -/
theorem scanMantissa_point (hw : ∀ d ∈ whole, isDigit d = true)
    (hf : ∀ d ∈ fraction, isDigit d = true) (hne : ¬ (whole.isEmpty && fraction.isEmpty) = true)
    (hm : EndsDigits more) :
    scanMantissa (whole ++ '.' :: (fraction ++ more)) = some (whole, fraction, more) := by
  have point : EndsDigits ('.' :: (fraction ++ more)) := by
    intro c hc
    cases hc
    decide
  rw [scanMantissa, scanDigits_append hw point]
  simp only [scanDigits_append hf hm]
  exact if_neg hne

/-- Digits without a point. -/
theorem scanMantissa_whole (hw : ∀ d ∈ whole, isDigit d = true) (hne : ¬ whole.isEmpty = true)
    (hm : EndsMantissa more) : scanMantissa (whole ++ more) = some (whole, [], more) := by
  rw [scanMantissa, scanDigits_append hw fun c hc => (hm c hc).1]
  simp only
  split
  · exact absurd rfl (hm '.' rfl).2
  · exact if_neg hne

theorem scanMantissa_eq (h : scanMantissa cs = some (whole, fraction, rest)) :
    ∃ text, cs = text ++ rest ∧ IsMantissa text ∧
      (∀ more, IsUnsigned (text ++ more)) ∧
      ∀ more, EndsMantissa more → scanMantissa (text ++ more) = some (whole, fraction, more) := by
  rcases hd : scanDigits cs with ⟨ds, tail⟩
  obtain ⟨rfl, digits, -⟩ := scanDigits_eq hd
  rw [scanMantissa, hd] at h
  simp only at h
  split at h
  · next tail =>
    rcases hf : scanDigits tail with ⟨fs, tail'⟩
    obtain ⟨rfl, digits', -⟩ := scanDigits_eq hf
    rw [hf] at h
    simp only at h
    split at h
    · cases h
    · next nonempty =>
      cases h
      refine ⟨whole ++ '.' :: fraction, by simp, ?_, fun more => ?_, fun more hm => ?_⟩
      · by_cases hw : whole = []
        · subst hw
          exact .point (by simpa using nonempty) digits'
        · rw [← List.singleton_append, ← List.append_assoc]
          exact .digits hw digits (.inr rfl) digits'
      · by_cases hw : whole = []
        · subst hw
          rintro c ⟨⟩
          decide
        · rw [List.append_assoc]
          exact isUnsigned_append hw digits _
      · rw [List.append_assoc]
        exact scanMantissa_point digits digits' nonempty fun c hc => (hm c hc).1
  · split at h
    · cases h
    · next nonempty =>
      cases h
      have some : whole ≠ [] := fun e => nonempty (by simp [e])
      refine ⟨whole, rfl, ?_, fun more => ?_, fun more hm => ?_⟩
      · have form := IsMantissa.digits some digits (.inl rfl) (List.forall_mem_nil _)
        rwa [List.append_nil, List.append_nil] at form
      · exact isUnsigned_append some digits more
      · exact scanMantissa_whole digits nonempty hm

/-- A power of ten, if the letter is followed by digits. -/
theorem scanExponent_letter {c : Char} (hc : (c == 'e' || c == 'E') = true) {negative : Bool}
    {sign : List Char} (hs : scanSign (sign ++ (ds ++ more)) = (negative, ds ++ more))
    (hd : ∀ d ∈ ds, isDigit d = true) (hne : ¬ ds.isEmpty = true) (hm : EndsDigits more) :
    scanExponent (c :: (sign ++ (ds ++ more))) =
      (if negative then -(digitsValue 0 ds : Int) else (digitsValue 0 ds : Int), more) := by
  rw [scanExponent, if_pos hc, hs]
  simp only [scanDigits_append hd hm]
  exact if_neg hne

theorem scanExponent_eq {e : Int} (h : scanExponent cs = (e, rest)) :
    ∃ text, cs = text ++ rest ∧ IsPower text ∧ EndsMantissa text ∧
      scanExponent text = (e, []) := by
  -- unless there are digits after the letter, no power of ten is scanned
  have none : (0, cs) = (e, rest) → ∃ text, cs = text ++ rest ∧ IsPower text ∧
      EndsMantissa text ∧ scanExponent text = (e, []) := by
    intro same
    cases same
    exact ⟨[], rfl, .none, nofun, rfl⟩
  rw [scanExponent.eq_def] at h
  split at h
  · next c tail =>
    split at h
    · next letter =>
      rcases hs : scanSign tail with ⟨negative, tail'⟩
      obtain ⟨sign, rfl, signs, signed⟩ := scanSign_eq hs
      rcases hd : scanDigits tail' with ⟨ds, rest'⟩
      obtain ⟨rfl, digits, ends⟩ := scanDigits_eq hd
      rw [hs] at h
      simp only [hd] at h
      split at h
      · exact none h
      · next nonempty =>
        cases h
        have some : ds ≠ [] := fun e => nonempty (by simp [e])
        have letter' : c = 'e' ∨ c = 'E' := by simpa using letter
        have unsigned := isUnsigned_append some digits
        have alone : scanExponent (c :: (sign ++ (ds ++ []))) = _ :=
          scanExponent_letter letter (signed _ (unsigned [])) digits nonempty nofun
        refine ⟨c :: (sign ++ ds), by simp, .some letter' signs some digits, ?_, ?_⟩
        · rintro d ⟨⟩
          rcases letter' with rfl | rfl <;> decide
        · rwa [List.append_nil] at alone
    · exact none h
  · exact none h

/-! ### Numbers -/

/-- **What was scanned is a number by itself.** -/
theorem scanDecimal_eq {d : Decimal} (h : scanDecimal cs = some (d, rest)) :
    ∃ number, cs = number ++ rest ∧ HasNumberForm number ∧
      scanDecimal number = some (d, []) := by
  rcases hs : scanSign cs with ⟨negative, body⟩
  obtain ⟨sign, rfl, signs, signed⟩ := scanSign_eq hs
  rw [scanDecimal, hs] at h
  simp only at h
  cases hm : scanMantissa body with
  | none =>
      rw [hm] at h
      cases h
  | some parts =>
      obtain ⟨whole, fraction, tail⟩ := parts
      obtain ⟨mantissa, rfl, inner, unsigned, scanned⟩ := scanMantissa_eq hm
      rcases he : scanExponent tail with ⟨e, rest'⟩
      obtain ⟨exponent, rfl, outer, ends, alone⟩ := scanExponent_eq he
      rw [hm] at h
      simp only [he] at h
      cases h
      refine ⟨sign ++ (mantissa ++ exponent), by simp,
        ⟨sign, mantissa, exponent, signs, inner, outer, rfl⟩, ?_⟩
      rw [scanDecimal, signed _ (unsigned exponent)]
      simp only [scanned exponent ends, alone]

theorem not_isBlank_of_isNumeral {c : Char} (h : IsNumeral c) : isBlank c = false := by
  rcases h with h | rfl | rfl | rfl | rfl | rfl
  · exact not_isBlank_of_isDigit h
  all_goals decide

theorem isMargin_of_isNumeral {c : Char} (h : IsNumeral c) : isMargin c = false := by
  rw [isMargin, not_isBlank_of_isNumeral h, Bool.false_and]

/-- A number has no blanks around it. -/
theorem trimMargin_of_isNumeral (h : ∀ c ∈ cs, IsNumeral c) : trimMargin cs = cs := by
  have kept : ∀ ds : List Char, (∀ c ∈ ds, IsNumeral c) → ds.dropWhile isMargin = ds := by
    intro ds hd
    cases ds with
    | nil => rfl
    | cons d ds =>
        exact List.dropWhile_cons_of_neg (by simp [isMargin_of_isNumeral (hd d (by simp))])
  rw [trimMargin, kept cs h, kept cs.reverse fun c hc => h c (List.mem_reverse.mp hc),
    List.reverse_reverse]

/-- A number has no underscores. -/
theorem dropUnderscores_of_isNumeral (h : ∀ c ∈ cs, IsNumeral c) (before : Option Char) :
    dropUnderscores before cs = some cs := by
  induction cs generalizing before with
  | nil => rfl
  | cons c cs ih =>
      have other : c ≠ '_' := by
        rintro rfl
        rcases h '_' (List.mem_cons_self ..) with h | h | h | h | h | h <;>
          exact absurd h (by decide)
      rw [dropUnderscores, ih (fun d hd => h d (List.mem_cons_of_mem _ hd))]
      · rfl
      · exact other

/-- A text that is a number and nothing else is read in full. -/
theorem ofText?_of_scanDecimal {d : Decimal} (h : scanDecimal cs = some (d, [])) :
    Binary64.ofText? cs = some d.toBinary64 := by
  obtain ⟨number, split, form, -⟩ := scanDecimal_eq h
  rw [List.append_nil] at split
  subst split
  rw [Binary64.ofText?, trimMargin_of_isNumeral form.isNumeral,
    dropUnderscores_of_isNumeral form.isNumeral]
  simp only [h]

/-- **A numeral of a trace** is a number, by itself and in full, and letters after it. -/
theorem ofText?_of_numeral? {token : List Char} {d : Decimal} (h : Trace.numeral? token = some d) :
    ∃ number unit, Trace.dropLineFeed token = number ++ unit ∧
      unit.all Trace.isUnitLetter = true ∧ Binary64.ofText? number = some d.toBinary64 := by
  rw [Trace.numeral?] at h
  split at h
  · next d' rest scanned =>
    split at h
    · next unit =>
      cases h
      obtain ⟨number, split, -, alone⟩ := scanDecimal_eq scanned
      exact ⟨number, rest, split, unit, ofText?_of_scanDecimal alone⟩
    · cases h
  · cases h

end Postprocessor
