import Postprocessor.Decimal.Binary64

/-!
# Decimal numbers

* `Decimal`: a sign, a whole coefficient and a power of ten.
* `Decimal.toBinary64`: the nearest binary64 number.
* `Decimal.fixed`: the decimal written out without an exponent.
* `natText`, `intText`: whole numbers.
-/

namespace Postprocessor

/-- The decimal digits of a natural number. -/
def natText (n : Nat) : List Char := Nat.toDigits 10 n

/-- A whole number, with a sign if it is negative. -/
def intText (i : Int) : List Char :=
  if i < 0 then '-' :: natText i.natAbs else natText i.natAbs

/-- The decimal number `± coefficient · 10^exponent`. -/
structure Decimal where
  negative : Bool
  coefficient : Nat
  exponent : Int
  deriving DecidableEq, Repr, Inhabited

namespace Decimal

/-- The place of the leading digit: a decimal other than zero is below `10^magnitude` and not below
`10^(magnitude - 1)`. -/
def magnitude (d : Decimal) : Int := (natText d.coefficient).length + d.exponent

/-- The nearest binary64 number.  From `10^310` on that is an infinity, and below `10^-330` a zero,
so the power of ten is worked out between these bounds only. -/
def toBinary64 (d : Decimal) : Binary64 :=
  if d.coefficient = 0 ∨ d.magnitude < -330 then .zero d.negative
  else if 310 < d.magnitude then .infinite d.negative
  else if 0 ≤ d.exponent then .nearest d.negative (d.coefficient * 10 ^ d.exponent.toNat) 1
  else .nearest d.negative d.coefficient (10 ^ (-d.exponent).toNat)

/-- Digits with a point before the last `places` of them. -/
def withPoint (digits : List Char) (places : Nat) : List Char :=
  if places < digits.length then
    digits.take (digits.length - places) ++ '.' :: digits.drop (digits.length - places)
  else '0' :: '.' :: List.replicate (places - digits.length) '0' ++ digits

/-- The magnitude of a decimal written out in full. -/
def fixedMagnitude (coefficient : Nat) (exponent : Int) : List Char :=
  if 0 ≤ exponent then natText coefficient ++ List.replicate exponent.toNat '0'
  else withPoint (natText coefficient) (-exponent).toNat

/-- The decimal written out in full. -/
def fixed (d : Decimal) : List Char :=
  (if d.negative then ['-'] else []) ++ fixedMagnitude d.coefficient d.exponent

end Decimal

end Postprocessor
