import Postprocessor.Proofs.Control.Reading
import Postprocessor.Proofs.Machine.Writings
import Postprocessor.Proofs.Text.Unbroken

/-!
# Proofs — words without line breaks

* `Value.IsUnbroken`: a value whose texts hold no line break.  Numbers, truth values and symbols are
  so, and a text is if it holds none itself.
* `Setting.IsUnbroken`, `Verb.IsUnbroken`: what is set has such values.
* `isUnbroken_words`: then the words of a verb hold no line break.
-/

namespace Postprocessor

/-! ### Values -/

theorem isUnbroken_of_isPlainDigit {cs : List Char} (h : ∀ c ∈ cs, IsPlainDigit c) :
    Text.IsUnbroken cs :=
  fun c hc => Text.not_isBreak_of_not_isBlank (Control.not_isBlank_of_isPlainDigit (h c hc))

theorem isUnbroken_natText (n : Nat) : Text.IsUnbroken (natText n) :=
  isUnbroken_of_isPlainDigit fun _ => isPlainDigit_of_mem_natText

theorem isUnbroken_intText (i : Int) : Text.IsUnbroken (intText i) :=
  isUnbroken_of_isPlainDigit fun _ => isPlainDigit_of_mem_intText

namespace Binary64

theorem isUnbroken_exponentText (e : Int) : Text.IsUnbroken (exponentText e) := by
  have digits := isUnbroken_natText e.natAbs
  rw [exponentText]
  refine List.forall_mem_cons.mpr ⟨by decide, List.forall_mem_cons.mpr ⟨by split <;> decide, ?_⟩⟩
  split
  · exact List.forall_mem_cons.mpr ⟨by decide, digits⟩
  · exact digits

theorem isUnbroken_scientific {digits : List Char} (h : Text.IsUnbroken digits) :
    Text.IsUnbroken (scientific digits) := by
  match digits with
  | [] | [_] => exact h
  | d :: e :: rest =>
      obtain ⟨first, others⟩ := List.forall_mem_cons.mp h
      exact List.forall_mem_cons.mpr ⟨first, List.forall_mem_cons.mpr ⟨by decide, others⟩⟩

theorem isUnbroken_magnitudeText (d : Decimal) : Text.IsUnbroken (magnitudeText d) := by
  have fixed : Text.IsUnbroken (Decimal.fixedMagnitude d.coefficient d.exponent) := by
    have digits : Text.IsUnbroken (Decimal.fixed d) :=
      isUnbroken_of_isPlainDigit fun _ => Decimal.isPlainDigit_of_mem_fixed
    exact (Text.isUnbroken_append.mp digits).2
  rw [magnitudeText]
  split
  · split
    · exact Text.isUnbroken_append.mpr ⟨fixed, by decide⟩
    · exact fixed
  · exact Text.isUnbroken_append.mpr
      ⟨isUnbroken_scientific (isUnbroken_natText _), isUnbroken_exponentText _⟩

theorem isUnbroken_text (x : Binary64) : Text.IsUnbroken x.text := by
  cases x with
  | finite s r =>
      exact Text.isUnbroken_append.mpr ⟨by cases s <;> decide, isUnbroken_magnitudeText _⟩
  | infinite s => cases s <;> decide
  | undefined mark => exact (by decide : Text.IsUnbroken "nan".toList)

theorem isUnbroken_plainText (x : Binary64) : Text.IsUnbroken x.plainText := by
  cases x with
  | finite s r => exact isUnbroken_of_isPlainDigit fun _ => isPlainDigit_of_mem_plainText
  | infinite s => exact isUnbroken_text (.infinite s)
  | undefined n => exact isUnbroken_text (.undefined n)

end Binary64

/-- What is written for the value, as text or in digits only, holds no line break. -/
structure Value.IsUnbroken (v : Value) : Prop where
  written : ∀ s, v.written = .ok s → Postprocessor.IsUnbroken s
  plain : ∀ s, v.plain = .ok s → Postprocessor.IsUnbroken s

namespace Value

/-- A value other than a number with a point is written in digits as it is written as text. -/
theorem isUnbroken_of_written {v : Value} (hv : v.plain = v.written)
    (h : ∀ s, v.written = .ok s → Postprocessor.IsUnbroken s) : v.IsUnbroken :=
  ⟨h, fun s hs => h s (hv ▸ hs)⟩

theorem isUnbroken_null : null.IsUnbroken :=
  isUnbroken_of_written rfl fun s hs => by cases hs; decide

theorem isUnbroken_bool (b : Bool) : (bool b).IsUnbroken :=
  isUnbroken_of_written rfl fun s hs => by cases hs; cases b <;> decide

theorem isUnbroken_int (i : Int) : (int i).IsUnbroken := by
  refine isUnbroken_of_written rfl fun s hs => ?_
  have shown : intWritten i = .ok s := hs
  rw [intWritten] at shown
  split at shown <;> cases shown
  exact isUnbroken_ofList.mpr (isUnbroken_intText i)

theorem isUnbroken_float (x : Binary64) : (float x).IsUnbroken := by
  refine ⟨fun s hs => ?_, fun s hs => ?_⟩ <;> cases hs
  · exact isUnbroken_ofList.mpr x.isUnbroken_text
  · exact isUnbroken_ofList.mpr x.isUnbroken_plainText

theorem isUnbroken_text {s : String} (h : Postprocessor.IsUnbroken s) : (text s).IsUnbroken :=
  isUnbroken_of_written rfl fun t ht => by cases ht; exact h

theorem isUnbroken_symbol (s : Symbol) : (symbol s).IsUnbroken := by
  refine isUnbroken_of_written rfl fun t ht => ?_
  cases ht
  have all : ∀ s ∈ Symbol.all, Postprocessor.IsUnbroken s.word := by decide
  exact all s s.mem_all

theorem IsUnbroken.text? {v : Value} (h : v.IsUnbroken) {s : String} (hs : v.text? = some s) :
    Postprocessor.IsUnbroken s := h.written s (written_of_text? hs)

theorem IsUnbroken.write {v : Value} (h : v.IsUnbroken) (style : WordStyle) {s : String}
    (hs : style.write v = .ok s) : Postprocessor.IsUnbroken s := by
  cases style with
  | plain => exact h.plain s hs
  | text => exact h.written s hs
  | name =>
      obtain ⟨t, ht, rfl⟩ := map_eq_ok hs
      have quote : Postprocessor.IsUnbroken "=\"" := by decide
      exact (quote.append (h.written t ht)).append (by decide)

end Value

/-! ### Settings -/

theorem isUnbroken_address (c : Channel) : IsUnbroken c.address := by
  cases c with
  | axis axis => cases axis <;> decide
  | mode mode => exact (by decide : IsUnbroken "G")
  | plane | feed | speed | direction | tool => decide

namespace Machine

theorem isUnbroken_write {c : Channel} {v : Value} (h : v.IsUnbroken) {force : Bool} {m : Machine}
    {word : String} (hw : (write c v force m).1 = .ok word) : IsUnbroken word := by
  by_cases hv : v = .null
  · rw [hv, write_null] at hw
    cases hw
    decide
  · rw [write_eq hv] at hw
    split at hw
    · cases hw
      decide
    · obtain ⟨s, hs, rfl⟩ := map_eq_ok hw
      exact (isUnbroken_address c).append (h.write c.style hs)

end Machine

namespace Setting

/-- All that is assigned holds no line break. -/
def IsUnbroken (s : Setting) : Prop :=
  ∀ as, s.assignments = .ok as → ∀ a ∈ as, a.value.IsUnbroken

theorem isUnbroken_of_ok {s : Setting} {as : List Assignment} (hs : s.assignments = .ok as)
    (h : ∀ a ∈ as, a.value.IsUnbroken) : s.IsUnbroken := by
  intro as' hs'
  rw [hs] at hs'
  cases hs'
  exact h

/-- A setting that assigns what a check yields. -/
theorem isUnbroken_of_map {s : Setting} {α : Type} {r : Except Failure α} {f : α → Assignment}
    (hs : s.assignments = r.map fun a => [f a]) (h : ∀ a, (f a).value.IsUnbroken) :
    s.IsUnbroken := by
  intro as hs'
  rw [hs] at hs'
  obtain ⟨a, -, rfl⟩ := map_eq_ok hs'
  exact List.forall_mem_singleton.mpr (h a)

theorem isUnbroken_single {s : Setting} {a : Assignment} (hs : s.assignments = .ok [a])
    (h : a.value.IsUnbroken) : s.IsUnbroken :=
  isUnbroken_of_ok hs (List.forall_mem_singleton.mpr h)

theorem isUnbroken_position {target : Axis → Value} (h : ∀ axis, (target axis).IsUnbroken) :
    (position target).IsUnbroken :=
  isUnbroken_of_ok rfl (List.forall_mem_map.mpr fun axis _ => h axis)

theorem isUnbroken_mode (m : Mode) (i : Int) : (mode m (.int i)).IsUnbroken :=
  isUnbroken_of_map rfl fun _ => Value.isUnbroken_int i

/-- What is assigned for a plane is its code. -/
theorem isUnbroken_plane (p : Value) : (plane p).IsUnbroken :=
  isUnbroken_of_map rfl fun code => Value.isUnbroken_int code

/-- What is assigned for a direction is its code. -/
theorem isUnbroken_direction (d : Value) : (direction d).IsUnbroken :=
  isUnbroken_of_map rfl fun code => Value.isUnbroken_int code

theorem isUnbroken_joined (s : Setting) {words : List String}
    (h : ∀ word ∈ words, Postprocessor.IsUnbroken word) :
    Postprocessor.IsUnbroken (s.joined words) := by
  have spaced : Postprocessor.IsUnbroken (" ".intercalate words) :=
    IsUnbroken.intercalate (by decide) h
  have close : Postprocessor.IsUnbroken ("".intercalate words) :=
    IsUnbroken.intercalate (by decide) h
  cases s with
  | position target => exact isUnbroken_ofList.mpr (spaced.squeezeFrom false).trim
  | _ => exact close

end Setting

namespace Verb

/-- All that is set holds no line break. -/
def IsUnbroken (v : Verb) : Prop := ∀ s ∈ v.settings, s.IsUnbroken

/-- **The words of a verb** hold no line break if its values hold none. -/
theorem isUnbroken_words {v : Verb} (h : v.IsUnbroken) {force : Bool} {m : Machine}
    {words : List String} (hw : (v.words force m).1 = .ok words) :
    ∀ word ∈ words, Postprocessor.IsUnbroken word := by
  have actions : ∀ word ∈ v.actions, Postprocessor.IsUnbroken word := by
    cases v with
    | changeTool name => exact List.forall_mem_singleton.mpr (by decide)
    | rapid | line | set => exact List.forall_mem_nil _
  refine forall_words hw (fun s hs w arises => ?_) (fun s _ _ => s.isUnbroken_joined) actions
  obtain ⟨⟨as, assigned, mem⟩, m', written⟩ := arises
  exact Machine.isUnbroken_write (h s hs as assigned _ mem) written

end Verb

end Postprocessor
