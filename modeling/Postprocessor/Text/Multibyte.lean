import Postprocessor.Text.Multibyte.Japanese

/-!
# Codes of several bytes a character

* `Multibyte`: the codes of Chinese, Japanese and Korean.
* `Multibyte.name`, `Multibyte.otherNames`: what they are called.
* `Multibyte.encode`: a text in a code, or the first character that has no place in it.
-/

namespace Postprocessor.Text

/-- A code of Chinese, Japanese or Korean. -/
inductive Multibyte where
  | gb2312
  | gbk
  | gb18030
  | hz
  | big5
  | big5Vendor
  | hkscs
  | eucKr
  | uhc
  | johab
  | iso2022Kr
  | eucJp
  | shiftJis
  | shiftJisVendor
  | eucJis0213 (e : JisEdition)
  | shiftJis0213 (e : JisEdition)
  | iso2022Jp
  | iso2022Jp1
  | iso2022Jp2
  | iso2022JpKatakana
  | iso2022Jp0213 (e : JisEdition)
  deriving DecidableEq, Repr

namespace Multibyte

/-- All codes. -/
def all : List Multibyte :=
  [.gb2312, .gbk, .gb18030, .hz, .big5, .big5Vendor, .hkscs, .eucKr, .uhc, .johab, .iso2022Kr,
    .eucJp, .shiftJis, .shiftJisVendor, .eucJis0213 .year2000, .eucJis0213 .year2004,
    .shiftJis0213 .year2000, .shiftJis0213 .year2004, .iso2022Jp, .iso2022Jp1, .iso2022Jp2,
    .iso2022JpKatakana, .iso2022Jp0213 .year2000, .iso2022Jp0213 .year2004]

theorem mem_all (m : Multibyte) : m ∈ all := by
  cases m with
  | eucJis0213 e | shiftJis0213 e | iso2022Jp0213 e => cases e <;> decide
  | _ => decide

/-- The name of a code. -/
def name : Multibyte → String
  | .gb2312 => "gb2312"
  | .gbk => "gbk"
  | .gb18030 => "gb18030"
  | .hz => "hz"
  | .big5 => "big5"
  | .big5Vendor => "cp950"
  | .hkscs => "big5hkscs"
  | .eucKr => "euc_kr"
  | .uhc => "cp949"
  | .johab => "johab"
  | .iso2022Kr => "iso2022_kr"
  | .eucJp => "euc_jp"
  | .shiftJis => "shift_jis"
  | .shiftJisVendor => "cp932"
  | .eucJis0213 .year2000 => "euc_jisx0213"
  | .eucJis0213 .year2004 => "euc_jis_2004"
  | .shiftJis0213 .year2000 => "shift_jisx0213"
  | .shiftJis0213 .year2004 => "shift_jis_2004"
  | .iso2022Jp => "iso2022_jp"
  | .iso2022Jp1 => "iso2022_jp_1"
  | .iso2022Jp2 => "iso2022_jp_2"
  | .iso2022JpKatakana => "iso2022_jp_ext"
  | .iso2022Jp0213 .year2000 => "iso2022_jp_3"
  | .iso2022Jp0213 .year2004 => "iso2022_jp_2004"

/-- The other names of a code. -/
def otherNames : Multibyte → List String
  | .gb2312 => ["chinese", "csiso58gb231280", "euc_cn", "euccn", "eucgb2312_cn", "gb2312_1980",
    "gb2312_80", "iso_ir_58", "x_mac_simp_chinese"]
  | .gbk => ["936", "cp936", "ms936"]
  | .gb18030 => ["gb18030_2000"]
  | .hz => ["hz_gb", "hz_gb_2312", "hzgb"]
  | .big5 => ["big5_tw", "csbig5", "x_mac_trad_chinese"]
  | .big5Vendor => ["950", "ms950"]
  | .hkscs => ["big5_hkscs", "hkscs"]
  | .eucKr => ["euckr", "korean", "ks_c_5601", "ks_c_5601_1987", "ks_x_1001", "ksc5601", "ksx1001",
    "x_mac_korean"]
  | .uhc => ["949", "ms949", "uhc"]
  | .johab => ["cp1361", "ms1361"]
  | .iso2022Kr => ["csiso2022kr", "iso2022kr", "iso_2022_kr"]
  | .eucJp => ["eucjp", "u_jis", "ujis"]
  | .shiftJis => ["csshiftjis", "s_jis", "shiftjis", "sjis", "x_mac_japanese"]
  | .shiftJisVendor => ["932", "ms932", "ms_kanji", "mskanji"]
  | .eucJis0213 .year2000 => ["eucjisx0213"]
  | .eucJis0213 .year2004 => ["euc_jis2004", "eucjis2004", "jisx0213"]
  | .shiftJis0213 .year2000 => ["s_jisx0213", "shiftjisx0213", "sjisx0213"]
  | .shiftJis0213 .year2004 => ["s_jis_2004", "shiftjis2004", "sjis_2004"]
  | .iso2022Jp => ["csiso2022jp", "iso2022jp", "iso_2022_jp"]
  | .iso2022Jp1 => ["iso2022jp_1", "iso_2022_jp_1"]
  | .iso2022Jp2 => ["iso2022jp_2", "iso_2022_jp_2"]
  | .iso2022JpKatakana => ["iso2022jp_ext", "iso_2022_jp_ext"]
  | .iso2022Jp0213 .year2000 => ["iso2022jp_3", "iso_2022_jp_3"]
  | .iso2022Jp0213 .year2004 => ["iso2022jp_2004", "iso_2022_jp_2004"]

/-- A text in a code, or the first character that has no place in it, with its position. -/
def encode (m : Multibyte) (cs : List Char) : Except (Nat × Char) (List UInt8) :=
  let fixed := fun bytes? => encodeSigns (.fixed bytes?) () 0
  let sets := fun list => encodeSigns (Text.iso2022Jp list) .ascii 0
  match m with
  | .gb2312 => fixed gb2312Bytes? (plainSigns cs)
  | .gbk => fixed gbkBytes? (plainSigns cs)
  | .gb18030 => fixed gb18030Bytes? (plainSigns cs)
  | .hz => encodeSigns Text.hz false 0 (plainSigns cs)
  | .big5 => fixed big5Bytes? (plainSigns cs)
  | .big5Vendor => fixed big5VendorBytes? (plainSigns cs)
  | .hkscs => fixed hkscsBytes? (signs hkscsJoins cs)
  | .eucKr => fixed eucKrBytes? (plainSigns cs)
  | .uhc => fixed uhcBytes? (plainSigns cs)
  | .johab => fixed johabBytes? (plainSigns cs)
  | .iso2022Kr => encodeSigns Text.iso2022Kr .unused 0 (plainSigns cs)
  | .eucJp => fixed eucJpBytes? (plainSigns cs)
  | .shiftJis => fixed shiftJisBytes? (plainSigns cs)
  | .shiftJisVendor => fixed shiftJisVendorBytes? (plainSigns cs)
  | .eucJis0213 e => fixed (eucJis0213Bytes? e) (signs jisJoins cs)
  | .shiftJis0213 e => fixed (shiftJis0213Bytes? e) (signs jisJoins cs)
  | .iso2022Jp => sets [.jis0208, .roman] (plainSigns cs)
  | .iso2022Jp1 => sets [.jis0208, .jis0212, .roman] (plainSigns cs)
  | .iso2022Jp2 => sets [.jis0208, .jis0212, .ksX1001, .gb2312, .roman] (plainSigns cs)
  | .iso2022JpKatakana => sets [.jis0208, .jis0212, .roman, .katakana] (plainSigns cs)
  | .iso2022Jp0213 e => sets [.jis0208, .firstPlane e, .secondPlane e] (signs jisJoins cs)

end Multibyte

end Postprocessor.Text
