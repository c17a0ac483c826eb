import Postprocessor.Text.CharTable.Jis
import Postprocessor.Text.Multibyte.Chinese
import Postprocessor.Text.Multibyte.Korean

/-!
# Codes of Japanese

* `JisSet`: the sets of characters.
* `eucJpBytes?`, `shiftJisBytes?`, `shiftJisVendorBytes?`: codes of JIS X 0208.
* `eucJis0213Bytes?`, `shiftJis0213Bytes?`: codes of JIS X 0213.
* `iso2022Jp`: the codes in seven bits, which change sets by escape sequences.
-/

namespace Postprocessor.Text

open CharTable

/-! ### Sets -/

/-- The editions of JIS X 0213. -/
inductive JisEdition where
  | year2000
  | year2004
  deriving DecidableEq, Repr

/-- The ideographs that the second edition added to the first plane. -/
def addedIn2004 : List Char := "俱剝吞噓姸屛幷瘦繫𠮟".toList

/-- The place of a character in the first plane of JIS X 0213, those of JIS X 0208 apart. -/
def firstPlane? (e : JisEdition) (c : Char) : Option Nat :=
  if e = .year2000 && addedIn2004.contains c then none else jis0213First.place? c

/-- The place of a character in the second plane of JIS X 0213.  The second edition gave one place
to another form of its ideograph. -/
def secondPlane? (e : JisEdition) (c : Char) : Option Nat :=
  match e with
  | .year2004 => jis0213Second.place? c
  | .year2000 =>
    if c == '鬜' then none
    else if c == '鬝' then jis0213Second.place? '鬜'
    else jis0213Second.place? c

/-- A character that has one code with a mark: the marks, and the place with each of them. -/
structure Marked where
  base : Char
  marks : List (Nat × Nat)

/-- The places of the first plane that hold a character with a mark. -/
def markedPlaces : List Marked := [
  ⟨'æ', [(0x300, 975)]⟩, ⟨'ɔ', [(0x300, 979), (0x301, 980)]⟩, ⟨'ə', [(0x300, 983), (0x301, 984)]⟩,
  ⟨'ɚ', [(0x300, 985), (0x301, 986)]⟩, ⟨'ʌ', [(0x300, 981), (0x301, 982)]⟩, ⟨'˥', [(0x2E9, 1009)]⟩,
  ⟨'˩', [(0x2E5, 1008)]⟩, ⟨'か', [(0x309A, 368)]⟩, ⟨'き', [(0x309A, 369)]⟩, ⟨'く', [(0x309A, 370)]⟩,
  ⟨'け', [(0x309A, 371)]⟩, ⟨'こ', [(0x309A, 372)]⟩, ⟨'カ', [(0x309A, 462)]⟩, ⟨'キ', [(0x309A, 463)]⟩,
  ⟨'ク', [(0x309A, 464)]⟩, ⟨'ケ', [(0x309A, 465)]⟩, ⟨'コ', [(0x309A, 466)]⟩, ⟨'セ', [(0x309A, 467)]⟩,
  ⟨'ツ', [(0x309A, 468)]⟩, ⟨'ト', [(0x309A, 469)]⟩, ⟨'ㇷ', [(0x309A, 557)]⟩]

/-- The place of a character with a mark.  Of the mark the low sixteen bits count; zero stands for
no mark, and then the place is that of the character alone. -/
def markedPlace? (alone : Char → Option Nat) (c mark : Char) : Option Nat :=
  match markedPlaces.find? (·.base == c) with
  | none => none
  | some m =>
    let n := mark.toNat % 0x10000
    if n = 0 then alone c else m.marks.lookup n

/-- Whether a character has one code with the mark after it. -/
def jisJoins (c mark : Char) : Bool := (markedPlace? (fun _ => some 0) c mark).isSome

/-- The place in the first plane of JIS X 0213, with what it shares with JIS X 0208. -/
def wholeFirstPlane? (e : JisEdition) (c : Char) : Option Nat :=
  (firstPlane? e c).or (jis0208.place? c)

/-- The place of a sign with a mark. -/
def Sign.markedPlace? (e : JisEdition) (s : Sign) : Option Nat :=
  s.mark?.bind (Text.markedPlace? (wholeFirstPlane? e) s.base)

/-- The number of a letter among the narrow katakana. -/
def katakana? (c : Char) : Option Nat :=
  if 0xFF61 ≤ c.toNat && c.toNat ≤ 0xFF9F then some (c.toNat - 0xFF61) else none

/-- The byte of a character in which the Roman set of Japan differs from ASCII. -/
def romanByte? (c : Char) : Option UInt8 :=
  if c == '¥' then some 0x5C else if c == '‾' then some 0x7E else none

/-! ### Extended codes -/

/-- A sign in the extended code of JIS X 0208 and its supplement. -/
def eucJpBytes? (s : Sign) : Option (List UInt8) :=
  let c := s.base
  if s.isAscii then some [s.byte]
  else match romanByte? c, katakana? c, jis0208.place? c with
    | some b, _, _ => some [b]
    | _, some i, _ => some [0x8E, (0xA1 + i).toUInt8]
    | _, _, some p => some (gridBytes 0xA1 p)
    | none, none, none => (jis0212.place? c).map fun p => 0x8F :: gridBytes 0xA1 p

/-- The place that a wide tilde shares with another form of it. -/
abbrev wideTildePlace : Nat := 94 + 17

/-- A sign in the extended code of JIS X 0213. -/
def eucJis0213Bytes? (e : JisEdition) (s : Sign) : Option (List UInt8) :=
  let c := s.base
  if s.isAscii then some [s.byte]
  else match s.mark? with
    | some _ => (s.markedPlace? e).map (gridBytes 0xA1)
    | none =>
      if c == '～' then some (gridBytes 0xA1 wideTildePlace)
      else if e = .year2000 && addedIn2004.contains c then none
      else match katakana? c, wholeFirstPlane? e c with
        | some i, _ => some [0x8E, (0xA1 + i).toUInt8]
        | none, some p => some (gridBytes 0xA1 p)
        | none, none =>
          ((secondPlane? e c).or (if e = .year2000 && c == '鬜' then none else jis0212.place? c)).map
            fun p => 0x8F :: gridBytes 0xA1 p

/-! ### Shifted codes -/

/-- The second byte in a row of 188; the byte 127 is left out. -/
def trail188 (i : Nat) : Nat := if i < 63 then 0x40 + i else 0x41 + i

/-- The bytes of a place in the shifted code: two rows of 94 share a first byte, and there is a gap
after 31 of them. -/
def shiftedBytes (place : Nat) : List UInt8 :=
  rowBytes 188 (if place < 31 * 188 then 0x81 else 0xC1) trail188 place

/-- A sign in the shifted code of JIS X 0208.  A backslash and a tilde share their bytes with the
characters that the Roman set has for them. -/
def shiftJisBytes? (s : Sign) : Option (List UInt8) :=
  let c := s.base
  if s.isAscii then some [s.byte]
  else match romanByte? c, katakana? c with
    | some b, _ => some [b]
    | none, some i => some [(0xA1 + i).toUInt8]
    | none, none => (jis0208.place? c).map shiftedBytes

/-- The bytes that stand for themselves in the shifted code of a vendor, with the characters. -/
def vendorBytes : List (Nat × UInt8) :=
  [(0x80, 0x80), (0xF8F0, 0xA0), (0xF8F1, 0xFD), (0xF8F2, 0xFE), (0xF8F3, 0xFF)]

/-- The number of characters in private use that have a place after the 94 rows. -/
abbrev vendorPrivateCount : Nat := 20 * 94

/-- A sign in the shifted code of a vendor. -/
def shiftJisVendorBytes? (s : Sign) : Option (List UInt8) :=
  let c := s.base
  if s.isAscii then some [s.byte]
  else match vendorBytes.lookup c.toNat, katakana? c with
    | some b, _ => some [b]
    | none, some i => some [(0xA1 + i).toUInt8]
    | none, none =>
      if 0xE000 ≤ c.toNat && c.toNat < 0xE000 + vendorPrivateCount then
        some (shiftedBytes (94 * 94 + (c.toNat - 0xE000)))
      else ((vendorRows.place? c).or (jis0208.place? c)).map shiftedBytes

/-- The rows of the second plane that hold characters. -/
def secondPlaneRows : List Nat := [0, 7, 2, 3, 4, 11, 12, 13, 14] ++ List.range' 77 17

/-- The place of a character of the second plane in the shifted code: its rows follow the first
plane without gaps. -/
def shiftedSecondPlace? (place : Nat) : Option Nat :=
  (secondPlaneRows.idxOf? (place / 94)).map fun i => (94 + i) * 94 + place % 94

/-- A sign in the shifted code of JIS X 0213.  The bytes of backslash and tilde belong to the Roman
set, and these two have the places of their wide forms, which have none. -/
def shiftJis0213Bytes? (e : JisEdition) (s : Sign) : Option (List UInt8) :=
  let c := s.base
  match s.mark? with
  | some _ => (s.markedPlace? e).map shiftedBytes
  | none =>
    if c == '\\' then (jis0208.place? '＼').map shiftedBytes
    else if c == '~' then some (shiftedBytes wideTildePlace)
    else if c == '＼' then none
    else if s.isAscii then some [s.byte]
    else match romanByte? c, katakana? c, wholeFirstPlane? e c with
      | some b, _, _ => some [b]
      | none, some i, _ => some [(0xA1 + i).toUInt8]
      | none, none, some p => some (shiftedBytes p)
      | none, none, none => ((secondPlane? e c).bind shiftedSecondPlace?).map shiftedBytes

/-! ### Seven bits -/

/-- A set of characters that an escape sequence calls. -/
inductive JisSet where
  | ascii
  | roman
  | katakana
  | jis0208
  | jis0212
  | firstPlane (e : JisEdition)
  | secondPlane (e : JisEdition)
  | ksX1001
  | gb2312
  deriving DecidableEq, Repr

namespace JisSet

/-- The escape sequence that calls a set, after the escape. -/
def name : JisSet → String
  | .ascii => "(B"
  | .roman => "(J"
  | .katakana => "(I"
  | .jis0208 => "$B"
  | .jis0212 => "$(D"
  | .firstPlane .year2000 => "$(O"
  | .firstPlane .year2004 => "$(Q"
  | .secondPlane _ => "$(P"
  | .ksX1001 => "$(C"
  | .gb2312 => "$(A"

/-- The bytes of a sign in a set. -/
def bytes? (set : JisSet) (s : Sign) : Option (List UInt8) :=
  let c := s.base
  match set, s.mark? with
  | .firstPlane e, some _ => (s.markedPlace? e).map (gridBytes 0x21)
  | _, some _ => none
  | .ascii, none => if s.isAscii then some [s.byte] else none
  | .roman, none => (romanByte? c).map ([·])
  | .katakana, none => (katakana? c).map fun i => [(0x21 + i).toUInt8]
  | .jis0208, none => (CharTable.jis0208.place? c).map (gridBytes 0x21)
  | .jis0212, none => (CharTable.jis0212.place? c).map (gridBytes 0x21)
  | .firstPlane e, none => (wholeFirstPlane? e c).map (gridBytes 0x21)
  | .secondPlane e, none => (secondPlane? e c).map (gridBytes 0x21)
  | .ksX1001, none => (CharTable.ksX1001.place? c).map (gridBytes 0x21)
  | .gb2312, none => (gb2312Place? c).map (gridBytes 0x21)

end JisSet

/-- The code that takes each sign from the first of several sets that has it.  An escape sequence
calls a set, and a text ends in ASCII. -/
def iso2022Jp (sets : List JisSet) : Switching JisSet JisSet where
  write? s := (JisSet.ascii :: sets).findSome? fun set => (set.bytes? s).map (set, ·)
  enter now set := (set, if now = set then [] else escape set)
  leave now := if now = .ascii then [] else escape .ascii
where
  escape (set : JisSet) : List UInt8 := 0x1B :: set.name.toList.map fun c => c.toNat.toUInt8

end Postprocessor.Text
