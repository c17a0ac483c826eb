import Postprocessor.Text.CharTable.Big5
import Postprocessor.Text.CharTable.Chinese
import Postprocessor.Text.Multibyte.Basic

/-!
# Codes of Chinese

* `gb2312Bytes?`, `gbkBytes?`, `gb18030Bytes?`: the codes of mainland China, of which each holds
  the one before.
* `hz`: GB 2312 in seven bits.
* `big5Bytes?`, `big5VendorBytes?`, `hkscsBytes?`: the codes of Taiwan and Hong Kong.
-/

namespace Postprocessor.Text

open CharTable

/-! ### Mainland China -/

/-- The place of a character in GB 2312. -/
def gb2312Place? (c : Char) : Option Nat := (gb2312Marks.place? c).or (gb2312.place? c)

/-- A sign in GB 2312. -/
def gb2312Bytes? (s : Sign) : Option (List UInt8) :=
  if s.isAscii then some [s.byte] else (gb2312Place? s.base).map (gridBytes 0xA1)

/-- The first ideograph of the main block. -/
abbrev firstIdeograph : Nat := 0x4E00

/-- The end of the ideographs that GBK holds. -/
abbrev ideographEnd : Nat := 0x9FA6

/-- The second byte in a row of 190; the byte 127 is left out. -/
def trail190 (i : Nat) : Nat := if i < 63 then 0x40 + i else 0x41 + i

/-- The bytes of a place in the rows of GBK. -/
def gbkRowBytes (place : Nat) : List UInt8 := rowBytes 190 0x81 trail190 place

/-- The place of the ideograph `n` of those that GB 2312 leaves out: they fill 32 rows, and then
the first 96 places of the rows from the 42nd on. -/
def addedIdeographPlace (n : Nat) : Nat :=
  if n < 32 * 190 then n else (41 + (n - 32 * 190) / 96) * 190 + (n - 32 * 190) % 96

/-- A character of GBK beyond ASCII. -/
def gbkWide? (c : Char) : Option (List UInt8) :=
  match gbkMarks.place? c with
  | some p => some (gbkRowBytes p)
  | none =>
    match gb2312.place? c with
    | some p => some (gridBytes 0xA1 p)
    | none =>
      let n := c.toNat
      if firstIdeograph ≤ n && n < ideographEnd then
        let there := gb2312.countBelow n - gb2312.countBelow firstIdeograph
        some (gbkRowBytes (addedIdeographPlace (n - firstIdeograph - there)))
      else none

/-- A sign in GBK. -/
def gbkBytes? (s : Sign) : Option (List UInt8) :=
  if s.isAscii then some [s.byte] else gbkWide? s.base

/-- Characters in private use with successive places: the first place, the first character and
their number. -/
structure PrivateRun where
  place : Nat
  first : Nat
  count : Nat

namespace PrivateRun

/-- The place of a code point. -/
def place? (r : PrivateRun) (n : Nat) : Option Nat :=
  if r.first ≤ n && n < r.first + r.count then some (r.place + (n - r.first)) else none

/-- How many characters of a run have a code point below `n`. -/
def countBelow (r : PrivateRun) (n : Nat) : Nat := min r.count (n - r.first)

end PrivateRun

/-- The characters in private use that GB 18030 puts into free places of GBK. -/
def privateRuns : List PrivateRun := [
  ⟨6080, 0xE4C6, 96⟩, ⟨6270, 0xE526, 96⟩, ⟨6376, 0xE766, 6⟩, ⟨6433, 0xE76D, 1⟩, ⟨6444, 0xE76E, 2⟩,
  ⟨6458, 0xE770, 2⟩, ⟨6460, 0xE586, 96⟩, ⟨6650, 0xE5E6, 96⟩, ⟨6829, 0xE772, 11⟩, ⟨6840, 0xE646, 96⟩,
  ⟨7022, 0xE77D, 8⟩, ⟨7030, 0xE6A6, 96⟩, ⟨7150, 0xE785, 8⟩, ⟨7182, 0xE78D, 7⟩, ⟨7201, 0xE794, 2⟩,
  ⟨7208, 0xE796, 1⟩, ⟨7211, 0xE797, 9⟩, ⟨7220, 0xE706, 96⟩, ⟨7349, 0xE7A0, 15⟩, ⟨7397, 0xE7AF, 13⟩,
  ⟨7495, 0xE7BC, 11⟩, ⟨7533, 0xE7C7, 1⟩, ⟨7538, 0xE7C9, 4⟩, ⟨7579, 0xE7CD, 21⟩, ⟨7624, 0xE7E2, 1⟩,
  ⟨7627, 0xE7E3, 1⟩, ⟨7629, 0xE7E4, 3⟩, ⟨7686, 0xE7F4, 13⟩, ⟨7775, 0xE801, 15⟩, ⟨7886, 0xE000, 94⟩,
  ⟨8076, 0xE05E, 94⟩, ⟨8266, 0xE0BC, 94⟩, ⟨8456, 0xE11A, 94⟩, ⟨8646, 0xE178, 94⟩,
  ⟨8836, 0xE1D6, 94⟩, ⟨16525, 0xE810, 5⟩, ⟨22706, 0xE234, 94⟩, ⟨22896, 0xE292, 94⟩,
  ⟨23086, 0xE2F0, 94⟩, ⟨23276, 0xE34E, 94⟩, ⟨23466, 0xE3AC, 94⟩, ⟨23656, 0xE40A, 94⟩,
  ⟨23767, 0xE816, 3⟩, ⟨23775, 0xE81E, 1⟩, ⟨23783, 0xE826, 1⟩, ⟨23788, 0xE82B, 2⟩,
  ⟨23794, 0xE831, 2⟩, ⟨23804, 0xE83B, 1⟩, ⟨23812, 0xE843, 1⟩, ⟨23829, 0xE854, 2⟩,
  ⟨23845, 0xE864, 1⟩, ⟨23846, 0xE468, 94⟩]

/-- A character that GB 18030 adds to the rows of GBK. -/
def gb18030Place? (c : Char) : Option Nat :=
  (gb18030Added.place? c).or (privateRuns.findSome? (·.place? c.toNat))

/-- How many characters beyond ASCII with a code point below `n` have two bytes in GB 18030. -/
def twoByteCount (n : Nat) : Nat :=
  let ideographs := min (n - firstIdeograph) (ideographEnd - firstIdeograph)
  let others := fun (t : CharTable) => t.chars.countP fun c =>
    c.toNat < n && !(firstIdeograph ≤ c.toNat && c.toNat < ideographEnd)
  ideographs + others gb2312 + others gbkMarks + others gb18030Added
    + (privateRuns.map (·.countBelow n)).foldr (· + ·) 0

/-- The four bytes of a number: the second and the fourth have ten values, the third has 126. -/
def fourBytes (n : Nat) : List UInt8 :=
  [(0x81 + n / 12600).toUInt8, (0x30 + n / 1260 % 10).toUInt8, (0x81 + n / 10 % 126).toUInt8,
    (0x30 + n % 10).toUInt8]

/-- The number of a character among those with four bytes.  In the first 65536 they are counted
from the first one beyond ASCII; surrogates do not count. -/
def fourByteNumber (n : Nat) : Nat :=
  if 0x10000 ≤ n then 189000 + (n - 0x10000)
  else n - 128 - (if 0xE000 ≤ n then 0x800 else 0) - twoByteCount n

/-- A sign in GB 18030, which has bytes for every character. -/
def gb18030Bytes? (s : Sign) : Option (List UInt8) :=
  match gbkBytes? s with
  | some bytes => some bytes
  | none =>
    match gb18030Place? s.base with
    | some p => some (gbkRowBytes p)
    | none => some (fourBytes (fourByteNumber s.base.toNat))

theorem isSome_gb18030Bytes? (s : Sign) : (gb18030Bytes? s).isSome = true := by
  unfold gb18030Bytes?
  split
  · rfl
  · split <;> rfl

/-- GB 2312 in seven bits: tildes with braces stand around a run of its characters, and a tilde
is written twice. -/
def hz : Switching Bool Bool where
  write? s :=
    if s.isAscii then some (false, if s.base == '~' then [0x7E, 0x7E] else [s.byte])
    else (gb2312Place? s.base).map fun p => (true, gridBytes 0x21 p)
  enter now wide := (wide, if now == wide then [] else if wide then [0x7E, 0x7B] else [0x7E, 0x7D])
  leave now := if now then [0x7E, 0x7D] else []

/-! ### Taiwan and Hong Kong -/

/-- The second byte in a row of 157: 63 places, and after a gap the others. -/
def trail157 (i : Nat) : Nat := if i < 63 then 0x40 + i else 0x62 + i

/-- The bytes of a place in the rows of Big5. -/
def big5RowBytes (place : Nat) : List UInt8 := rowBytes 157 0x81 trail157 place

/-- A sign in a code that looks into several tables of Big5. -/
def big5In? (tables : List CharTable) (s : Sign) : Option (List UInt8) :=
  if s.isAscii then some [s.byte]
  else (tables.findSome? (·.place? s.base)).map big5RowBytes

/-- A sign in Big5. -/
def big5Bytes? : Sign → Option (List UInt8) := big5In? [big5]

/-- A sign in the Big5 of a vendor. -/
def big5VendorBytes? : Sign → Option (List UInt8) := big5In? [big5Vendor, big5]

/-- The marks with which an `Ê` or `ê` has one code: a macron and a caron.  Of a mark the low
sixteen bits count. -/
def hkscsMarks : List Nat := [0x304, 0x30C]

/-- Whether a character has one code with the mark after it. -/
def hkscsJoins (c mark : Char) : Bool :=
  (c == 'Ê' || c == 'ê') && hkscsMarks.contains (mark.toNat % 0x10000)

/-- A sign in Big5 with the Hong Kong supplement. -/
def hkscsBytes? (s : Sign) : Option (List UInt8) :=
  match s.mark? with
  | some mark =>
    let first := if s.base == 'Ê' then 0x62 else 0xA3
    some [0x88, if mark.toNat % 0x10000 == 0x304 then first else first + 2]
  | none => big5In? [hkscs, big5] s

end Postprocessor.Text
