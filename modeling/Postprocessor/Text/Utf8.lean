import Postprocessor.Text.Quoted

/-!
# Texts as bytes

* `Utf8.encode`, `Utf8.decode`: a text as bytes, and back.
* `DecodeFault`: where and why bytes are no text.
-/

namespace Postprocessor.Text

/-- Bytes that are no text. -/
structure DecodeFault where
  /-- The bytes that were read before. -/
  start : Nat
  /-- The bytes that do not fit. -/
  bytes : List UInt8
  reason : String
  deriving DecidableEq, Repr

namespace DecodeFault

/-- A byte in a report. -/
def byteShown (b : UInt8) : String := "0x" ++ String.ofList (hexDigits 2 b.toNat)

/-- The text that is reported. -/
def message (f : DecodeFault) : String :=
  match f.bytes with
  | [b] =>
    s!"'utf-8' codec can't decode byte {byteShown b} in position {f.start}: {f.reason}"
  | bs =>
    s!"'utf-8' codec can't decode bytes in position {f.start}-{f.start + bs.length - 1}: "
      ++ f.reason

end DecodeFault

namespace Utf8

/-! ### Encoding -/

/-- The bytes of a character. -/
def encodeChar (c : Char) : List UInt8 := String.utf8EncodeChar c

/-- The bytes of a text. -/
def encode (cs : List Char) : List UInt8 := cs.flatMap encodeChar

/-! ### Decoding -/

/-- What the first byte of a character says: the number of bytes after it, the bits that it gives,
and the bounds of the byte after it. -/
structure Lead where
  more : Nat
  bits : Nat
  low : Nat
  high : Nat

/-- The first byte of a character of several bytes.  The bounds of its second byte leave out what
has a shorter form, the halves of surrogate pairs and everything beyond the last code point. -/
def lead? (b : Nat) : Option Lead :=
  if 0xC2 ≤ b ∧ b ≤ 0xDF then some ⟨1, b - 0xC0, 0x80, 0xBF⟩
  else if b = 0xE0 then some ⟨2, 0, 0xA0, 0xBF⟩
  else if b = 0xED then some ⟨2, 0xD, 0x80, 0x9F⟩
  else if 0xE1 ≤ b ∧ b ≤ 0xEF then some ⟨2, b - 0xE0, 0x80, 0xBF⟩
  else if b = 0xF0 then some ⟨3, 0, 0x90, 0xBF⟩
  else if b = 0xF4 then some ⟨3, 4, 0x80, 0x8F⟩
  else if 0xF1 ≤ b ∧ b ≤ 0xF3 then some ⟨3, b - 0xF0, 0x80, 0xBF⟩
  else none

/-- The code point of the character that goes on with `more` bytes within the bounds, or the number
of bytes that fit and whether the text ends after them. -/
def continuation (more low high value taken : Nat) : List UInt8 → Except (Nat × Bool) Nat
  | [] => if more = 0 then .ok value else .error (taken, true)
  | b :: rest =>
    match more with
    | 0 => .ok value
    | more + 1 =>
      if low ≤ b.toNat ∧ b.toNat ≤ high then
        continuation more 0x80 0xBF (64 * value + (b.toNat - 0x80)) (taken + 1) rest
      else .error (taken, false)

/-- Decodes bytes of which the first `skipped` belong to a character that was decoded before;
`position` counts the bytes before them. -/
def decodeFrom (position : Nat) (done : List Char) :
    Nat → List UInt8 → Except DecodeFault (List Char)
  | _, [] => .ok done.reverse
  | skipped + 1, _ :: rest => decodeFrom (position + 1) done skipped rest
  | 0, b :: rest =>
    if b.toNat < 0x80 then
      decodeFrom (position + 1) (Char.ofNat b.toNat :: done) 0 rest
    else
      match lead? b.toNat with
      | none => .error ⟨position, [b], "invalid start byte"⟩
      | some l =>
        match continuation l.more l.low l.high l.bits 0 rest with
        | .ok value => decodeFrom (position + 1) (Char.ofNat value :: done) l.more rest
        | .error (taken, ended) =>
          .error ⟨position, b :: rest.take taken,
            if ended then "unexpected end of data" else "invalid continuation byte"⟩

/-- The text that bytes stand for. -/
def decode (bytes : List UInt8) : Except DecodeFault (List Char) := decodeFrom 0 [] 0 bytes

end Utf8

end Postprocessor.Text
