import Postprocessor.Decimal.Shortest

/-!
# Decimals of a given precision

A report may ask for a number with so many places after the point, or with so many significant
digits.  The number is rounded exactly, a tie going to the even digit.

* `fixedDigits`: a magnitude with a number of places.
* `significant`: a magnitude with a number of significant digits.
* `Precise`: the three ways to write these.
* `Binary64.precise`: a number written in one of them.
-/

namespace Postprocessor

/-- Digits before and after a point, which is left out if nothing comes after it, unless `keep`. -/
def joinPoint (keep : Bool) (whole fraction : List Char) : List Char :=
  if fraction.isEmpty && !keep then whole else whole ++ '.' :: fraction

/-- Digits without the zeros at their end. -/
def dropZeros (digits : List Char) : List Char :=
  (digits.reverse.dropWhile (· == '0')).reverse

namespace Binary64

/-- The digits before and after the point of a magnitude with `places` places. -/
def fixedDigits (rank places : Nat) : List Char × List Char :=
  let n := roundEven (units rank * 10 ^ places) unitsPerOne
  (natText (n / 10 ^ places),
    let fraction := natText (n % 10 ^ places)
    if places = 0 then [] else List.replicate (places - fraction.length) '0' ++ fraction)

/-- The power of ten of the leading digit of a magnitude other than zero. -/
def decade (rank : Nat) : Int :=
  let u := units rank
  if unitsPerOne ≤ u then (natText (u / unitsPerOne)).length - 1
  else -((natText ((unitsPerOne + u - 1) / u - 1)).length : Int)

/-- The digits of a magnitude, `count` of them, and the power of ten of the first. -/
def significant (rank count : Nat) : List Char × Int :=
  if rank = 0 then (List.replicate count '0', 0)
  else
    let e := decade rank
    let shift := (count : Int) - 1 - e
    let n :=
      if 0 ≤ shift then roundEven (units rank * 10 ^ shift.toNat) unitsPerOne
      else roundEven (units rank) (unitsPerOne * 10 ^ (-shift).toNat)
    if n < 10 ^ count then (natText n, e) else (natText (n / 10), e + 1)

end Binary64

/-- The ways to write a number of a given precision. -/
inductive Precise where
  /-- So many places. -/
  | fixed
  /-- One digit before the point, so many places and an exponent. -/
  | scientific
  /-- So many significant digits, with an exponent if the number is small or large. -/
  | general
  deriving DecidableEq, Repr

namespace Precise
open Binary64

/-- A digit, further digits and an exponent. -/
def withExponent (keep : Bool) (digits : List Char) (e : Int) : List Char :=
  joinPoint keep (digits.take 1) (digits.drop 1) ++ exponentText e

/-- A magnitude with at least one significant digit.  It has an exponent below `10^-4` and where its
digits do not reach to the point.  Zeros at the end are left out, unless `keep`. -/
def generalMagnitude (keep : Bool) (rank count : Nat) : List Char :=
  let (digits, e) := significant rank count
  let cut := fun ds => if keep then ds else dropZeros ds
  if -4 ≤ e ∧ e < count then
    if 0 ≤ e then joinPoint keep (digits.take (e.toNat + 1)) (cut (digits.drop (e.toNat + 1)))
    else joinPoint keep ['0'] (cut (List.replicate ((-e).toNat - 1) '0' ++ digits))
  else withExponent keep (digits.take 1 ++ cut (digits.drop 1)) e

/-- A magnitude; `keep` keeps the point and the zeros that could be left out. -/
def magnitude (way : Precise) (keep : Bool) (precision rank : Nat) : List Char :=
  match way with
  | .fixed =>
    let (whole, fraction) := fixedDigits rank precision
    joinPoint keep whole fraction
  | .scientific =>
    let (digits, e) := significant rank (precision + 1)
    withExponent keep digits e
  | .general => generalMagnitude keep rank (max 1 precision)

end Precise

/-- A number written in one of the ways. -/
def Binary64.precise (x : Binary64) (way : Precise) (keep : Bool) (precision : Nat) : List Char :=
  match x with
  | .finite s r => (if s then ['-'] else []) ++ way.magnitude keep precision r
  | x => x.text

end Postprocessor
