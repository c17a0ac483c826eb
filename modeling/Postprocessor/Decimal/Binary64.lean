import Postprocessor.Power

/-!
# Binary64 numbers

Coordinates, feeds and speeds are read into the 64-bit binary format and written from it.  Nothing
is ever computed with them, so a number is held exactly, as natural numbers, and its laws are laws
of arithmetic on `Nat`.

* `Binary64`: a signed infinity, an undefined number, or a sign and a *rank*, the place of the
  magnitude among all finite magnitudes in ascending order.
* `units`: the magnitude of a rank, counted in the least positive magnitude, `2^-1074`.
* `nearest`: the number nearest to a fraction, an exact tie going to the even significand.
* `same`, `sameInt`: equality of values, in which the two zeros agree and an undefined number
  agrees with nothing.
* `isOne`: whether two undefined numbers are one and the same.
-/

namespace Postprocessor

/-- The number of significands in one binade, `2^52`. -/
abbrev binade : Nat := 2 ^ 52

/-- The number of finite magnitudes. -/
abbrev rankCount : Nat := 2047 * 2 ^ 52

/-- The number of units in one. -/
abbrev unitsPerOne : Nat := 2 ^ 1074

/-- A number of the binary64 format. -/
inductive Binary64 where
  | finite (negative : Bool) (rank : Fin rankCount)
  | infinite (negative : Bool)
  /-- An undefined number.  Its mark says where it comes from. -/
  | undefined (mark : Option Nat)
  deriving DecidableEq, Repr, Inhabited

namespace Binary64

/-! ### Magnitudes -/

/-- The power of two that the significand of a rank counts, in units. -/
def exponent (rank : Nat) : Nat := rank / binade - 1

/-- The significand of a rank: below `2^53`, and at least `2^52` if the exponent is not zero. -/
def significand (rank : Nat) : Nat := rank - exponent rank * binade

/-- The magnitude of a rank, in units. -/
def units (rank : Nat) : Nat := significand rank * 2 ^ exponent rank

/-- The magnitude of a rank with a sign, in units. -/
def signedUnits (negative : Bool) (rank : Nat) : Int :=
  if negative then -(units rank : Int) else units rank

/-- Zero. -/
def zero (negative : Bool) : Binary64 := .finite negative ⟨0, by decide⟩

/-! ### Rounding -/

/-- `num / den` rounded to the nearest natural number, a tie to the even one. -/
def roundEven (num den : Nat) : Nat :=
  let q := num / den
  let r := 2 * (num % den)
  if r < den then q
  else if den < r then q + 1
  else q + q % 2

/-- The rank nearest to the fraction `num / den`; the rank of a fraction beyond the greatest finite
magnitude is not below `rankCount`. -/
def nearestRank (num den : Nat) : Nat :=
  let e := (num * unitsPerOne / den).log2 - 52
  e * binade + roundEven (num * unitsPerOne) (den * 2 ^ e)

/-- The number nearest to `± num / den`. -/
def nearest (negative : Bool) (num den : Nat) : Binary64 :=
  let r := nearestRank num den
  if h : r < rankCount then .finite negative ⟨r, h⟩ else .infinite negative

/-! ### Values -/

/-- Equality of values. -/
def same : Binary64 → Binary64 → Bool
  | .finite s r, .finite t q => signedUnits s r == signedUnits t q
  | .infinite s, .infinite t => s == t
  | _, _ => false

/-- Whether two undefined numbers come from one place.  Without a mark a number is no other's
double. -/
def isOne : Binary64 → Binary64 → Bool
  | .undefined (some m), .undefined (some n) => m == n
  | _, _ => false

/-- Equality with a whole number. -/
def sameInt : Binary64 → Int → Bool
  | .finite s r, i => signedUnits s r == i * unitsPerOne
  | _, _ => false

/-- The whole part, toward zero; `none` for the numbers that are not finite. -/
def whole? : Binary64 → Option Int
  | .finite s r => some ((signedUnits s r).tdiv unitsPerOne)
  | _ => none

/-- A finite number without a fractional part. -/
def isWhole : Binary64 → Bool
  | .finite _ r => units r % unitsPerOne == 0
  | _ => false

/-- Zero of either sign. -/
def isZero : Binary64 → Bool
  | .finite _ r => r.val == 0
  | _ => false

end Binary64

end Postprocessor
