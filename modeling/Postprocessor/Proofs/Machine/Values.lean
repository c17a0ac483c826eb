import Postprocessor.Machine.Basic
import Postprocessor.Proofs.Decimal.Windows
import Postprocessor.Proofs.Running
import Postprocessor.Proofs.Text.Trimming

/-!
# Proofs — the values of a machine

A machine is told coordinates, feeds and speeds as numbers, modes as codes and tools as texts.
Whether a register writes a new word depends on the equality of values; a control sees the texts
only.  For the values that a channel admits the two are one: values agree when they have one text.

* `Value.IsNumber`: a whole number that can be written, or a finite number.
* `Channel.codes`: the codes of a channel that is set by codes.
* `Channel.Admits`: the values that a channel can be given.
* `Channel.word`: the word for a value.
* `word_eq_of_agrees`, `agrees_of_word_eq`: values that agree have one word, and values with one word
  agree.
* `Value.IsCode`: the value is a code; a truth value never is.
-/

namespace Postprocessor

/-! ### Numbers -/

/-- Whether the whole number has few enough digits to be written. -/
def IsPrintable (i : Int) : Prop := (natText i.natAbs).length ≤ digitLimit

instance (i : Int) : Decidable (IsPrintable i) := inferInstanceAs (Decidable (_ ≤ _))

theorem intWritten_of_isPrintable {i : Int} (h : IsPrintable i) :
    Value.intWritten i = .ok (String.ofList (intText i)) :=
  if_neg (Nat.not_lt.mpr h)

theorem intWritten_of_not_isPrintable {i : Int} (h : ¬ IsPrintable i) :
    Value.intWritten i = .error .tooManyDigits :=
  if_pos (Nat.not_le.mp h)

/-- A whole number is printable when its magnitude has at most `digitLimit` digits. -/
theorem isPrintable_iff {i : Int} : IsPrintable i ↔ i.natAbs < 10 ^ digitLimit :=
  Nat.length_toDigits_le_iff (by decide) (by decide)

theorem not_isPrintable_pow : ¬ IsPrintable (10 ^ digitLimit) := by
  have ten : Int.natAbs 10 = 10 := rfl
  rw [isPrintable_iff, Int.natAbs_pow, ten]
  exact Nat.lt_irrefl _

namespace Value

/-- A whole number that can be written, or a finite number. -/
def IsNumber : Value → Prop
  | .int i => IsPrintable i
  | .float (.finite ..) => True
  | _ => False

instance : DecidablePred IsNumber
  | .int i => inferInstanceAs (Decidable (IsPrintable i))
  | .float (.finite ..) => .isTrue trivial
  | .float (.infinite _) | .float (.undefined _) | .null | .bool _ | .text _ | .symbol _ | .list _
  | .mapping _ | .foreign _ | .pair .. | .set _ | .again _ => .isFalse id

/-- The digits of a number. -/
def digits : Value → List Char
  | .int i => intText i
  | .float x => x.plainText
  | _ => []

theorem plain_eq_digits {v : Value} (h : v.IsNumber) : v.plain = .ok (String.ofList v.digits) := by
  cases v with
  | int i => exact intWritten_of_isPrintable h
  | float x => rfl
  | _ => exact h.elim

theorem isPlainDigit_of_mem_digits {v : Value} (h : v.IsNumber) {c : Char} (hc : c ∈ v.digits) :
    IsPlainDigit c := by
  cases v with
  | int i => exact isPlainDigit_of_mem_intText hc
  | float x =>
      cases x with
      | finite s r => exact Binary64.isPlainDigit_of_mem_plainText hc
      | _ => exact h.elim
  | _ => exact h.elim

/-- Numbers that agree have the same digits. -/
theorem digits_eq_of_agrees {a b : Value} (ha : a.IsNumber) (hb : b.IsNumber)
    (h : Register.agrees a b = true) : a.digits = b.digits := by
  cases a with
  | int i =>
      cases b with
      | int j =>
          obtain rfl : i = j := by simpa [Register.agrees, same_int, sameAtom, int?] using h
          rfl
      | float y =>
          have hs : y.sameInt i = true := by
            simpa [Register.agrees, same_float, sameAtom, int?] using h
          exact (Binary64.plainText_eq_of_sameInt hs).symm
      | _ => exact hb.elim
  | float x =>
      cases b with
      | int j =>
          have hs : x.sameInt j = true := by
            simpa [Register.agrees, same_int, sameAtom, int?] using h
          exact Binary64.plainText_eq_of_sameInt hs
      | float y =>
          have hs : x.same y = true := by simpa [Register.agrees, same_float, sameAtom] using h
          exact Binary64.plainText_eq_of_same hs
      | _ => exact hb.elim
  | _ => exact ha.elim

/-- Numbers with the same digits agree. -/
theorem agrees_of_digits_eq {a b : Value} (ha : a.IsNumber) (hb : b.IsNumber)
    (h : a.digits = b.digits) : Register.agrees a b = true := by
  cases a with
  | int i =>
      cases b with
      | int j => simpa [Register.agrees, same_int, sameAtom, int?] using intText_injective h
      | float y =>
          cases y with
          | finite t q =>
              have equal := Binary64.sameInt_of_plainText h.symm
              simpa [Register.agrees, same_float, sameAtom, int?] using equal
          | _ => exact hb.elim
      | _ => exact hb.elim
  | float x =>
      cases x with
      | finite s r =>
          cases b with
          | int j =>
              have equal := Binary64.sameInt_of_plainText h
              simpa [Register.agrees, same_int, sameAtom, int?] using equal
          | float y =>
              cases y with
              | finite t q =>
                  have equal := Binary64.same_of_plainText h
                  simpa [Register.agrees, same_float, sameAtom] using equal
              | _ => exact hb.elim
          | _ => exact hb.elim
      | _ => exact ha.elim
  | _ => exact ha.elim

/-- Texts that agree are one text. -/
theorem text_eq_of_agrees {a b : Value} {s t : String} (ha : a.text? = some s)
    (hb : b.text? = some t) (h : Register.agrees a b = true) : s = t := by
  cases a <;> simp [text?] at ha <;> cases b <;> simp [text?] at hb <;> subst ha hb <;>
    simpa [Register.agrees, same_text, same_symbol, sameAtom, int?, text?] using h

/-- Values that are one text agree. -/
theorem agrees_of_text? {a b : Value} {s : String} (ha : a.text? = some s)
    (hb : b.text? = some s) : Register.agrees a b = true := by
  cases a <;> simp [text?] at ha <;> cases b <;> simp [text?] at hb <;> subst ha <;>
    simp [Register.agrees, same_text, same_symbol, sameAtom, int?, text?, hb]

theorem written_of_text? {v : Value} {s : String} (h : v.text? = some s) : v.written = .ok s := by
  cases v <;> simp [text?] at h <;> subst h <;> rfl

end Value

/-! ### The values of a channel -/

namespace Channel

/-- The codes of a channel that is set by codes. -/
def codes : Channel → List Int
  | .mode m => m.codes
  | .plane => [17, 18, 19]
  | .direction => [3, 4]
  | _ => []

/-- The values that a channel can be given: a text for the tool, a number elsewhere, and one that
is written as a code where the channel has codes. -/
def Admits (c : Channel) (v : Value) : Prop :=
  match c with
  | .tool => ∃ s, v.text? = some s
  | .axis _ | .feed | .speed => v.IsNumber
  | c => v.IsNumber ∧ ∃ i ∈ c.codes, v.digits = intText i

/-- What follows the address in the word for a value. -/
def content (c : Channel) (v : Value) : String :=
  match c with
  | .tool => "=\"" ++ v.text?.getD "" ++ "\""
  | _ => String.ofList v.digits

/-- The word for a value. -/
def word (c : Channel) (v : Value) : String := c.address ++ c.content v

theorem Admits.isNumber {c : Channel} {v : Value} (h : c.Admits v) (hc : c ≠ .tool) :
    v.IsNumber := by
  cases c with
  | tool => exact absurd rfl hc
  | axis | feed | speed => exact h
  | mode | plane | direction => exact h.1

theorem content_eq_digits {c : Channel} (hc : c ≠ .tool) (v : Value) :
    c.content v = String.ofList v.digits := by
  cases c with
  | tool => exact absurd rfl hc
  | _ => rfl

theorem write_of_admits {c : Channel} {v : Value} (h : c.Admits v) :
    c.style.write v = .ok (c.content v) := by
  by_cases hc : c = .tool
  · subst hc
    obtain ⟨s, hs⟩ := h
    simp [style, WordStyle.write, Value.written_of_text? hs, content, hs, Except.map]
  · rw [content_eq_digits hc, ← Value.plain_eq_digits (h.isNumber hc)]
    cases c with
    | tool => exact absurd rfl hc
    | _ => rfl

/-- **Values that agree have one word.** -/
theorem word_eq_of_agrees {c : Channel} {a b : Value} (ha : c.Admits a) (hb : c.Admits b)
    (h : Register.agrees a b = true) : c.word a = c.word b := by
  by_cases hc : c = .tool
  · subst hc
    obtain ⟨s, hs⟩ := ha
    obtain ⟨t, ht⟩ := hb
    obtain rfl := Value.text_eq_of_agrees hs ht h
    rw [word, word, content, content, hs, ht]
  · rw [word, word, content_eq_digits hc, content_eq_digits hc,
      Value.digits_eq_of_agrees (ha.isNumber hc) (hb.isNumber hc) h]

/-- **Values with one word agree.** -/
theorem agrees_of_word_eq {c : Channel} {a b : Value} (ha : c.Admits a) (hb : c.Admits b)
    (h : c.word a = c.word b) : Register.agrees a b = true := by
  have content : (c.content a).toList = (c.content b).toList := by
    have texts := congrArg String.toList h
    rw [word, word, String.toList_append, String.toList_append] at texts
    exact List.append_cancel_left texts
  by_cases hc : c = .tool
  · subst hc
    obtain ⟨s, hs⟩ := ha
    obtain ⟨t, ht⟩ := hb
    simp only [Channel.content, hs, ht, String.toList_append, List.append_assoc] at content
    have same : s.toList = t.toList := List.append_cancel_right (List.append_cancel_left content)
    rw [String.toList_inj.mp same] at hs
    exact Value.agrees_of_text? hs ht
  · rw [content_eq_digits hc, content_eq_digits hc, String.toList_ofList,
      String.toList_ofList] at content
    exact Value.agrees_of_digits_eq (ha.isNumber hc) (hb.isNumber hc) content

/-- No value that a channel admits agrees with nothing. -/
theorem not_agrees_null {c : Channel} {v : Value} (h : c.Admits v) :
    Register.agrees .null v = false := by
  by_cases hc : c = .tool
  · subst hc
    obtain ⟨s, hs⟩ := h
    cases v <;> simp [Value.text?] at hs <;>
      simp [Register.agrees, Value.same_text, Value.same_symbol, Value.sameAtom, Value.int?,
        Value.text?]
  · have hv := h.isNumber hc
    cases v with
    | int | float =>
        simp [Register.agrees, Value.same_int, Value.same_float, Value.sameAtom, Value.int?,
          Value.text?]
    | _ => exact hv.elim

theorem not_admits_null {c : Channel} : ¬ c.Admits .null := by
  intro h
  by_cases hc : c = .tool
  · subst hc
    obtain ⟨s, hs⟩ := h
    cases hs
  · exact h.isNumber hc

end Channel

/-! ### Codes -/

namespace Value

/-- The value is the code, as a whole number or as another number equal to it. -/
structure IsCode (v : Value) (i : Int) : Prop where
  same : v.same (.int i) = true
  notBool : ∀ b, v ≠ .bool b

theorem isCode_int (i : Int) : (Value.int i).IsCode i :=
  ⟨by simp [same_int, sameAtom, int?], nofun⟩

theorem IsCode.cases {v : Value} {i : Int} (h : v.IsCode i) :
    v = .int i ∨ ∃ x : Binary64, v = .float x ∧ x.sameInt i = true := by
  obtain ⟨same, notBool⟩ := h
  cases v with
  | int j => simpa [same_int, sameAtom, int?] using same
  | float x => exact .inr ⟨x, rfl, by simpa [same_int, sameAtom, int?] using same⟩
  | bool b => exact absurd rfl (notBool b)
  | _ => simp [same_int, sameAtom, int?, text?] at same

/-- A code is written in plain digits, whatever number it is given as. -/
theorem IsCode.digits {v : Value} {i : Int} (h : v.IsCode i) : v.digits = intText i := by
  rcases h.cases with rfl | ⟨x, rfl, hx⟩
  · rfl
  · exact Binary64.plainText_eq_of_sameInt hx

end Value

theorem isPrintable_of_mem_codes (c : Channel) : ∀ i ∈ c.codes, IsPrintable i := by
  cases c with
  | mode mode => cases mode <;> decide
  | plane | direction => decide
  | _ => simp [Channel.codes]

/-- A value that is one of the codes is admitted. -/
theorem Channel.admits_of_isCode {c : Channel} {v : Value} {i : Int} (hi : i ∈ c.codes)
    (h : v.IsCode i) : c.Admits v := by
  have number : v.IsNumber := by
    rcases h.cases with rfl | ⟨x, rfl, hx⟩
    · exact isPrintable_of_mem_codes c i hi
    · cases x with
      | finite s r => trivial
      | _ => cases hx
  have admits : v.IsNumber ∧ ∃ i ∈ c.codes, v.digits = intText i := ⟨number, i, hi, h.digits⟩
  cases c with
  | mode | plane | direction => exact admits
  | _ => cases hi

/-- What the check of a mode lets pass is one of its codes. -/
theorem Mode.check_eq_ok {mode : Mode} {v : Value} (h : mode.check v = .ok ()) :
    ∃ i ∈ mode.codes, v.IsCode i := by
  have refused : ∀ w : Value, mode.refuse w ≠ .ok () := fun w => bind_error_ne_ok _ _ _
  cases v with
  | bool b => exact absurd h (refused _)
  | _ =>
      simp only [check] at h
      split at h
      · cases h
      · split at h
        · next hany =>
            obtain ⟨i, hi, same⟩ := List.any_eq_true.mp hany
            exact ⟨i, hi, same, nofun⟩
        · exact absurd h (refused _)

theorem Mode.admits_of_check {mode : Mode} {v : Value} (h : mode.check v = .ok ()) :
    (Channel.mode mode).Admits v := by
  obtain ⟨i, hi, hv⟩ := check_eq_ok h
  exact Channel.admits_of_isCode hi hv

theorem planeCode_eq_ok {v : Value} {i : Int} (h : planeCode v = .ok i) :
    ∃ p : Plane, v.symbol? = some (.plane p) ∧ i = p.code := by
  rw [planeCode] at h
  split at h
  · next p hp => exact ⟨p, hp, (Except.ok.inj h).symm⟩
  · exact absurd h (bind_error_ne_ok _ _ _)

theorem directionCode_eq_ok {v : Value} {i : Int} (h : directionCode v = .ok i) :
    ∃ d : Direction, v.symbol? = some (.direction d) ∧ d.code? = some i := by
  rw [directionCode] at h
  split at h
  · next d hd =>
      split at h
      · next c hc => exact ⟨d, hd, hc.trans (congrArg some (Except.ok.inj h))⟩
      · exact absurd h (bind_error_ne_ok _ _ _)
  · exact absurd h (bind_error_ne_ok _ _ _)

theorem Plane.code_mem (p : Plane) : p.code ∈ Channel.plane.codes := by
  cases p <;> decide

theorem Plane.admits_code (p : Plane) : Channel.plane.Admits (.int p.code) :=
  Channel.admits_of_isCode p.code_mem (Value.isCode_int _)

theorem Direction.code?_mem {d : Direction} {i : Int} (h : d.code? = some i) :
    i ∈ Channel.direction.codes := by
  cases d <;> simp [Direction.code?] at h <;> subst h <;> decide

theorem Direction.admits_code {d : Direction} {i : Int} (h : d.code? = some i) :
    Channel.direction.Admits (.int i) :=
  Channel.admits_of_isCode (code?_mem h) (Value.isCode_int _)

end Postprocessor
