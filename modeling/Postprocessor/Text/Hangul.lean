/-!
# Syllables of Hangul

A syllable is composed of an initial consonant, a vowel and perhaps a final consonant.  Unicode
orders the syllables by these three, so that they are read off the code point.

* `Syllable.ofChar?`: the parts of a syllable.
* `Syllable.toChar`: the syllable with given parts.
-/

namespace Postprocessor.Text

/-- A syllable of Hangul by the numbers of its parts. -/
structure Syllable where
  initial : Fin 19
  vowel : Fin 21
  /-- The final consonant, counted from one; zero stands for none. -/
  final : Fin 28
  deriving DecidableEq, Repr

namespace Syllable

/-- The first syllable. -/
abbrev first : Nat := 0xAC00

/-- The number of syllables. -/
abbrev count : Nat := 19 * 21 * 28

/-- The parts of the syllable with a given number. -/
def ofNumber (n : Fin count) : Syllable :=
  have hn : n.val < 19 * 21 * 28 := n.isLt
  ⟨⟨n / 588, by omega⟩, ⟨n / 28 % 21, by omega⟩, ⟨n % 28, by omega⟩⟩

/-- The parts of a syllable. -/
def ofChar? (c : Char) : Option Syllable :=
  if h : first ≤ c.toNat ∧ c.toNat - first < count then some (ofNumber ⟨c.toNat - first, h.2⟩)
  else none

/-- The number of a syllable in the order of Unicode. -/
def number (s : Syllable) : Nat := 588 * s.initial.val + 28 * s.vowel.val + s.final.val

theorem number_lt (s : Syllable) : s.number < 19 * 21 * 28 := by
  have := s.initial.isLt
  have := s.vowel.isLt
  have := s.final.isLt
  unfold number
  omega

@[simp] theorem number_ofNumber (n : Fin count) : (ofNumber n).number = n.val := by
  simp only [ofNumber, number]
  omega

/-- The syllable with given parts. -/
def toChar (s : Syllable) : Char := Char.ofNat (first + s.number)

/-- The parts determine the syllable. -/
theorem first_add_number_of_ofChar? {c : Char} {s : Syllable} (h : ofChar? c = some s) :
    first + s.number = c.toNat := by
  unfold ofChar? at h
  split at h
  · next hc =>
    cases h
    rw [number_ofNumber]
    exact Nat.add_sub_cancel' hc.1
  · simp at h

/-- The consonants that a syllable may start with. -/
def initials : List Char := "ㄱㄲㄴㄷㄸㄹㅁㅂㅃㅅㅆㅇㅈㅉㅊㅋㅌㅍㅎ".toList

/-- The consonants that a syllable may end with. -/
def finals : List Char := "ㄱㄲㄳㄴㄵㄶㄷㄹㄺㄻㄼㄽㄾㄿㅀㅁㅂㅄㅅㅆㅇㅈㅊㅋㅌㅍㅎ".toList

/-- The vowels. -/
def vowels : List Char := "ㅏㅐㅑㅒㅓㅔㅕㅖㅗㅘㅙㅚㅛㅜㅝㅞㅟㅠㅡㅢㅣ".toList

end Syllable

end Postprocessor.Text
