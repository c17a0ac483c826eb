import Postprocessor.Text.CharTable.KsX1001
import Postprocessor.Text.Hangul
import Postprocessor.Text.Multibyte.Basic

/-!
# Codes of Korean

KS X 1001 holds 2350 of the syllables of Hangul.  The codes differ in what they do with the
others.

* `eucKrBytes?`: spells them by their parts.
* `uhcBytes?`: puts them into free places, in order.
* `johabBytes?`: has a number for each part of a syllable.
* `iso2022Kr`: leaves them out, and writes KS X 1001 in seven bits.
-/

namespace Postprocessor.Text

open CharTable

/-! ### Syllables by their parts -/

/-- The place of a single letter of Hangul in KS X 1001. -/
def letterPlace (c : Char) : Nat := 3 * 94 + (c.toNat - 0x3131)

/-- The place in KS X 1001 that stands for a part left out. -/
abbrev fillerPlace : Nat := 3 * 94 + 51

/-- The letter with a given number, or the filler. -/
def partPlace (letters : List Char) (i : Nat) : Nat :=
  ((letters[i]?).map letterPlace).getD fillerPlace

/-- The places of the filler and the three parts of a syllable. -/
def Syllable.places (s : Syllable) : List Nat :=
  [fillerPlace, partPlace initials s.initial, partPlace vowels s.vowel,
    if s.final.val = 0 then fillerPlace else partPlace finals (s.final.val - 1)]

/-- A sign in the extended code of KS X 1001. -/
def eucKrBytes? (s : Sign) : Option (List UInt8) :=
  if s.isAscii then some [s.byte]
  else match ksX1001.place? s.base with
    | some p => some (gridBytes 0xA1 p)
    | none => (Syllable.ofChar? s.base).map fun y => y.places.flatMap (gridBytes 0xA1)

/-! ### Syllables in free places -/

/-- The second byte of a syllable in a free place: letters, and after them everything from 0x81
on. -/
def uhcTrail (i : Nat) : Nat :=
  if i < 26 then 0x41 + i else if i < 52 then 0x61 + (i - 26) else 0x81 + (i - 52)

/-- The bytes of the syllable `n` of those that KS X 1001 leaves out: 32 rows of 178 come first,
then rows of 84. -/
def uhcAddedBytes (n : Nat) : List UInt8 :=
  if n < 32 * 178 then rowBytes 178 0x81 uhcTrail n else rowBytes 84 0xA1 uhcTrail (n - 32 * 178)

/-- A sign in the unified code of Hangul. -/
def uhcBytes? (s : Sign) : Option (List UInt8) :=
  if s.isAscii then some [s.byte]
  else match ksX1001.place? s.base with
    | some p => some (gridBytes 0xA1 p)
    | none => (Syllable.ofChar? s.base).map fun y =>
      let there := ksX1001.countBelow (Syllable.first + y.number)
        - ksX1001.countBelow Syllable.first
      uhcAddedBytes (y.number - there)

/-! ### Numbers for the parts -/

/-- The number of a vowel. -/
def johabVowel (i : Nat) : Nat :=
  if i < 5 then 3 + i else if i < 11 then 5 + i else if i < 17 then 7 + i else 9 + i

/-- The number of a final consonant, or of none. -/
def johabFinal (i : Nat) : Nat := if i < 17 then 1 + i else 2 + i

/-- The two bytes of three numbers of five bits, after a bit that is set. -/
def johabParts (initial vowel final : Nat) : List UInt8 :=
  let n := 0x8000 + 0x400 * initial + 0x20 * vowel + final
  [(n / 0x100).toUInt8, (n % 0x100).toUInt8]

/-- A single letter of Hangul by the numbers of its parts. -/
def johabLetter? (c : Char) : Option (List UInt8) :=
  match Syllable.initials.idxOf? c with
  | some i => some (johabParts (2 + i) 2 1)
  | none =>
    match Syllable.vowels.idxOf? c with
    | some i => some (johabParts 1 (johabVowel i) 1)
    | none => (Syllable.finals.idxOf? c).map fun i => johabParts 1 2 (johabFinal (i + 1))

/-- The bytes of a place of KS X 1001 that holds no Hangul: two rows share a first byte. -/
def johabRowBytes (place : Nat) : List UInt8 :=
  let row := place / 94
  let row := if row < 41 then row + 0x1B2 else row + 0x197
  let i := row % 2 * 94 + place % 94
  [(row / 2).toUInt8, (if i < 0x4E then i + 0x31 else i + 0x43).toUInt8]

/-- A sign in the combining code of Hangul. -/
def johabBytes? (s : Sign) : Option (List UInt8) :=
  if s.isAscii then some [s.byte]
  else match Syllable.ofChar? s.base with
    | some y => some (johabParts (2 + y.initial) (johabVowel y.vowel) (johabFinal y.final))
    | none => (johabLetter? s.base).or ((ksX1001.place? s.base).map johabRowBytes)

/-! ### Seven bits -/

/-- What is remembered of the text so far. -/
inductive KoreanShift where
  /-- No character beyond ASCII has been written. -/
  | unused
  | ascii
  | wide
  deriving DecidableEq, Repr

/-- KS X 1001 in seven bits: it is announced before its first character, and a byte shifts out of
ASCII and another one back in. -/
def iso2022Kr : Switching Bool KoreanShift where
  write? s :=
    if s.isAscii then some (false, [s.byte])
    else (ksX1001.place? s.base).map fun p => (true, gridBytes 0x21 p)
  enter
    | .unused, true => (.wide, [0x1B, 0x24, 0x29, 0x43, 0x0E])
    | .ascii, true => (.wide, [0x0E])
    | .wide, false => (.ascii, [0x0F])
    | now, _ => (now, [])
  leave now := if now = .wide then [0x0F] else []

end Postprocessor.Text
