import Postprocessor.Text.CodePage
import Postprocessor.Text.HostName
import Postprocessor.Text.Multibyte
import Postprocessor.Text.Utf7

/-!
# Codes of characters

A text may be stored in a code of units of one size, in a code page, in a code of several bytes a
character, or in ASCII with longer forms for all other characters.

* `Encoding`: the codes.
* `Encoding.ofName`: the code with a given name, which may be spelled in several ways.
* `Encoding.encode`: a text in a code, or the characters that have no place in it.
-/

namespace Postprocessor.Text

/-- A code of characters. -/
inductive Encoding where
  /-- UTF-8, with a mark before the text or without. -/
  | utf8 (marked : Bool)
  /-- UTF-16. -/
  | utf16 (order : ByteOrder) (marked : Bool)
  /-- UTF-32. -/
  | utf32 (order : ByteOrder) (marked : Bool)
  | utf7
  /-- The first 128 characters. -/
  | ascii
  /-- The first 256 characters. -/
  | latin1
  | page (p : CodePage)
  | multibyte (m : Multibyte)
  /-- ASCII, with a backslash before the code of any other character. -/
  | escaped
  /-- The first 256 characters, with a backslash before the code of any other character. -/
  | partlyEscaped
  | punycode
  /-- The form of host names. -/
  | hostName
  deriving DecidableEq, Repr

/-! ### Faults -/

/-- Why a text cannot be written in a code. -/
inductive EncodeFault where
  /-- Characters that have no place in a code, which is given by its name. -/
  | noPlace (code : String) (start : Nat) (chars : List Char) (reason : String)
  | notHostName (why : HostName.Fault)
  deriving DecidableEq, Repr

/-- The report that a code which was asked for by a name fails for a reason of its own. -/
def failedText (name reason : String) : String :=
  "encoding with '" ++ name ++ "' codec failed (UnicodeError: " ++ reason ++ ")"

namespace EncodeFault

/-- The kind under which a fault is reported. -/
def kind : EncodeFault → String
  | .noPlace .. => "UnicodeEncodeError"
  | .notHostName _ => "UnicodeError"

/-- The text that is reported; `name` is the name by which the code was asked for. -/
def message (name : String) : EncodeFault → String
  | .noPlace code start [c] reason =>
    s!"'{code}' codec can't encode character '" ++ String.ofList (escapeCode c)
      ++ s!"' in position {start}: {reason}"
  | .noPlace code start cs reason =>
    s!"'{code}' codec can't encode characters in position "
      ++ s!"{start}-{start + cs.length - 1}: {reason}"
  | .notHostName why => failedText name why.message

end EncodeFault

/-- Why a name names no code. -/
inductive NameFault where
  /-- It holds a null character. -/
  | nullCharacter
  | unknown
  /-- It names a code of bytes. -/
  | ofBytes
  /-- It names the code in which no text can be written. -/
  | refusing
  deriving DecidableEq, Repr

namespace NameFault

/-- The most characters of a name that a report shows. -/
abbrev nameLimit : Nat := 400

/-- The kind under which a fault is reported. -/
def kind : NameFault → String
  | .nullCharacter => "ValueError"
  | .unknown | .ofBytes => "LookupError"
  | .refusing => "UnicodeError"

/-- The text that is reported. -/
def message (name : String) : NameFault → String
  | .nullCharacter => "embedded null character"
  | .unknown => "unknown encoding: " ++ name
  | .ofBytes =>
    "'" ++ String.ofList (name.toList.take nameLimit)
      ++ "' is not a text encoding; use codecs.encode() to handle arbitrary codecs"
  | .refusing => failedText name "undefined encoding"

end NameFault

/-! ### Bytes -/

/-- The mark of the order of bytes, which may stand before a text. -/
def byteOrderMark : Char := '\ufeff'

/-- A text with the mark before it. -/
def withMark (marked : Bool) (cs : List Char) : List Char :=
  if marked then byteOrderMark :: cs else cs

/-- A text in a code of one byte a character; the report names the first run of characters that
have none. -/
def encodeBytes (byte? : Char → Option UInt8) (name reason : String) (cs : List Char) :
    Except EncodeFault (List UInt8) :=
  match cs.mapM byte? with
  | some bytes => .ok bytes
  | none =>
    let fits := fun c => (byte? c).isSome
    let start := (cs.takeWhile fits).length
    .error (.noPlace name start ((cs.drop start).takeWhile (!fits ·)) reason)

/-- A text in the code of the first `size` characters. -/
def encodeFirst (name : String) (size : Nat) (cs : List Char) : Except EncodeFault (List UInt8) :=
  let byte? := fun (c : Char) => if c.toNat < size then some c.toNat.toUInt8 else none
  encodeBytes byte? name s!"ordinal not in range({size})" cs

/-- A character of ASCII as it is, and any other by its code after a backslash. -/
def escapedChar (c : Char) : List Char :=
  if c == '\\' then ['\\', '\\']
  else if c == '\n' then ['\\', 'n']
  else if c == '\r' then ['\\', 'r']
  else if c == '\t' then ['\\', 't']
  else if 32 ≤ c.toNat && c.toNat < 127 then [c]
  else escapeCode c

/-- One of the first 256 characters as it is, and any other by its code after a backslash. -/
def partlyEscapedChar (c : Char) : List Char := if c.toNat < 256 then [c] else escapeCode c

/-- Characters of which each is its own byte. -/
def ownBytes (cs : List Char) : List UInt8 := cs.map fun c => c.toNat.toUInt8

namespace Encoding

/-- A text in a code. -/
def encode (e : Encoding) (cs : List Char) : Except EncodeFault (List UInt8) :=
  match e with
  | .utf8 marked => .ok (Utf8.encode (withMark marked cs))
  | .utf16 order marked => .ok ((withMark marked cs).flatMap fun c =>
      (units16 c).flatMap (bytesOf order 2))
  | .utf32 order marked => .ok ((withMark marked cs).flatMap fun c => bytesOf order 4 c.toNat)
  | .utf7 => .ok (ownBytes (Utf7.encode cs))
  | .ascii => encodeFirst "ascii" 128 cs
  | .latin1 => encodeFirst "latin-1" 256 cs
  | .page p =>
    let table := p.table
    encodeBytes (fun c => CodePage.byteIn? table c.toNat) "charmap" "character maps to <undefined>"
      cs
  | .multibyte m =>
    (m.encode cs).mapError fun (i, c) => .noPlace m.name i [c] "illegal multibyte sequence"
  | .escaped => .ok (ownBytes (cs.flatMap escapedChar))
  | .partlyEscaped => .ok (ownBytes (cs.flatMap partlyEscapedChar))
  | .punycode => .ok (ownBytes (Punycode.encode cs))
  | .hostName =>
    match HostName.encode cs with
    | .ok name => .ok (ownBytes name)
    | .error why => .error (.notHostName why)

@[simp] theorem encode_utf8 (cs : List Char) : (utf8 false).encode cs = .ok (Utf8.encode cs) := rfl

/-! ### Names -/

/-- A name without its case: letters, digits and points of ASCII, with one underscore for
everything between two of them.  `between` says that there was something else after the last of
them. -/
def plainName (between : Bool) (done : List Char) : List Char → List Char
  | [] => done.reverse
  | c :: rest =>
    if c == '.' || c.isAlphanum then
      let done := if between && !done.isEmpty then '_' :: done else done
      plainName false (c.toLower :: done) rest
    else plainName true done rest

/-- A code with its name and its other names. -/
structure Named where
  encoding : Encoding
  name : String
  otherNames : List String

/-- The codes that are neither code pages nor of several bytes. -/
def general : List Named := [
  ⟨.utf8 false, "utf_8", ["utf8", "u8", "utf", "utf8_ucs2", "utf8_ucs4", "cp65001"]⟩,
  ⟨.utf8 true, "utf_8_sig", []⟩,
  ⟨.utf16 .little true, "utf_16", ["utf16", "u16"]⟩,
  ⟨.utf16 .little false, "utf_16_le", ["utf_16le", "unicodelittleunmarked"]⟩,
  ⟨.utf16 .big false, "utf_16_be", ["utf_16be", "unicodebigunmarked"]⟩,
  ⟨.utf32 .little true, "utf_32", ["utf32", "u32"]⟩,
  ⟨.utf32 .little false, "utf_32_le", ["utf_32le"]⟩,
  ⟨.utf32 .big false, "utf_32_be", ["utf_32be"]⟩,
  ⟨.utf7, "utf_7", ["u7", "unicode_1_1_utf_7", "utf7"]⟩,
  ⟨.ascii, "ascii", ["646", "ansi_x3.4_1968", "ansi_x3_4_1968", "ansi_x3.4_1986", "cp367",
    "csascii", "ibm367", "iso646_us", "iso_646.irv_1991", "iso_ir_6", "us", "us_ascii"]⟩,
  ⟨.latin1, "latin_1", ["latin1", "latin", "l1", "8859", "cp819", "csisolatin1", "ibm819",
    "iso8859", "iso8859_1", "iso_8859_1", "iso_8859_1_1987", "iso_ir_100"]⟩,
  ⟨.latin1, "charmap", []⟩,
  ⟨.escaped, "unicode_escape", []⟩,
  ⟨.partlyEscaped, "raw_unicode_escape", []⟩,
  ⟨.punycode, "punycode", []⟩,
  ⟨.hostName, "idna", []⟩]

/-- All codes. -/
def all : List Named :=
  general ++ (CodePage.all.map fun p => ⟨.page p, p.name, p.otherNames⟩)
    ++ Multibyte.all.map fun m => ⟨.multibyte m, m.name, m.otherNames⟩

/-- The names of the codes of bytes. -/
def bytesNames : List (String × List String) := [
  ("base64_codec", ["base64", "base_64"]), ("bz2_codec", ["bz2"]), ("hex_codec", ["hex"]),
  ("quopri_codec", ["quopri", "quoted_printable", "quotedprintable"]), ("rot_13", ["rot13"]),
  ("uu_codec", ["uu"]), ("zlib_codec", ["zip", "zlib"])]

/-- Whether a plain name is one of several.  In all but the first of them an underscore may be
spelled as a point. -/
def isNamed (plain name : String) (otherNames : List String) : Bool :=
  let spelled := plain.map fun c => if c == '.' then '_' else c
  plain == name || otherNames.contains plain || otherNames.contains spelled

/-- The code with a given name. -/
def ofName (name : String) : Except NameFault Encoding :=
  let plain := String.ofList (plainName false [] name.toList)
  if name.toList.contains '\x00' then .error .nullCharacter
  else match all.find? fun e => isNamed plain e.name e.otherNames with
    | some e => .ok e.encoding
    | none =>
      if bytesNames.any fun e => isNamed plain e.1 e.2 then .error .ofBytes
      else if plain == "undefined" then .error .refusing
      else .error .unknown

end Encoding

end Postprocessor.Text
