import Postprocessor.Text.Printable

/-!
# Quoted texts

A message shows a text between quotes, with everything that is not printable escaped.  The quotes
are single ones, unless the text holds a single quote and no double one.

* `hexDigits`: hexadecimal digits of a fixed width.
* `quote`: the quoted form.
* `quotedBytes`: the same for bytes, of which those of ASCII stand as characters.
-/

namespace Postprocessor.Text

/-- The hexadecimal digit of `d < 16`. -/
def hexDigit (d : Nat) : Char := if d < 10 then Char.ofNat (48 + d) else Char.ofNat (87 + d)

/-- The last `width` hexadecimal digits of `n`, the most significant first. -/
def hexDigits : Nat → Nat → List Char
  | 0, _ => []
  | width + 1, n => hexDigits width (n / 16) ++ [hexDigit (n % 16)]

/-- A character by its code point, in the shortest of the three widths that holds it. -/
def escapeCode (c : Char) : List Char :=
  if c.toNat < 0x100 then '\\' :: 'x' :: hexDigits 2 c.toNat
  else if c.toNat < 0x10000 then '\\' :: 'u' :: hexDigits 4 c.toNat
  else '\\' :: 'U' :: hexDigits 8 c.toNat

/-- One character inside the quotes `q`. -/
def escapeChar (q c : Char) : List Char :=
  if c == q || c == '\\' then ['\\', c]
  else if c == '\n' then ['\\', 'n']
  else if c == '\r' then ['\\', 'r']
  else if c == '\t' then ['\\', 't']
  else if isPrintable c then [c]
  else escapeCode c

/-- The quotes around `cs`. -/
def quoteMark (cs : List Char) : Char :=
  if cs.contains '\'' && !cs.contains '"' then '"' else '\''

/-- The quoted form of a text. -/
def quote (cs : List Char) : List Char :=
  let q := quoteMark cs
  q :: cs.flatMap (escapeChar q) ++ [q]

/-- The quoted form of bytes. -/
def quotedBytes (bs : List UInt8) : String :=
  let cs := bs.map fun b => Char.ofNat b.toNat
  let q := quoteMark cs
  let escape := fun c => if c.toNat < 128 then escapeChar q c else escapeCode c
  String.ofList ('b' :: q :: cs.flatMap escape ++ [q])

end Postprocessor.Text

namespace String
open Postprocessor

/-- The quoted form of a text. -/
def quotedForm (s : String) : String := ofList (Text.quote s.toList)

end String
