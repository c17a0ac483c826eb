import Postprocessor.Power

/-!
# Texts in units of 16 bits

A character beyond `FFFF` is written by a pair of units, which are no characters themselves.

* `units16`: the units of a character.
* `ByteOrder`, `bytesOf`: a number as bytes.
-/

namespace Postprocessor.Text

/-- The order of the bytes of a unit. -/
inductive ByteOrder where
  /-- The least significant byte first. -/
  | little
  /-- The most significant byte first. -/
  | big
  deriving DecidableEq, Repr

/-- The last `count` bytes of a number. -/
def bytesOf (order : ByteOrder) (count n : Nat) : List UInt8 :=
  let little := (List.range count).map fun i => (n / 256 ^ i % 256).toUInt8
  match order with
  | .little => little
  | .big => little.reverse

/-- A character by its one or two units of 16 bits. -/
def units16 (c : Char) : List Nat :=
  let n := c.toNat
  if n < 0x10000 then [n]
  else [0xD800 + (n - 0x10000) / 0x400, 0xDC00 + (n - 0x10000) % 0x400]

end Postprocessor.Text
