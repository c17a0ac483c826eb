import Postprocessor.Decimal.Basic

/-!
# The shortest decimal that reads back

A binary64 number is shown by the fewest decimal digits that are read back as the same number, and
among those by the digits nearest to it.

The numbers that are read as a given magnitude form an interval around it.  On the coarsest power of
ten of which a multiple lies in that interval, the nearest such multiple is the answer.

* `Window`: the interval, in quarters of a unit.
* `Window.pick`: the multiple of a given power of ten.
* `shortest`: the decimal.
* `Binary64.text`: the number as it is shown, with an exponent if it is small or large.
* `Binary64.plainText`: the number in digits only, as a program word needs it.
-/

namespace Postprocessor

/-- The numbers that are read as one magnitude, in quarters of a unit: those from `low` to `high`,
the ends included if `closed`. -/
structure Window where
  low : Nat
  centre : Nat
  high : Nat
  closed : Bool

namespace Window

/-- The window of a rank.  It reaches half way to the two neighbouring magnitudes; the lower
neighbour is nearer where a binade begins. -/
def ofRank (rank : Nat) : Window :=
  let m := Binary64.significand rank
  let e := Binary64.exponent rank
  let step := 2 ^ e
  { low := 4 * (m * step) - (if m = binade ∧ 0 < e then step else 2 * step)
    centre := 4 * (m * step)
    high := 4 * (m * step) + 2 * step
    closed := m % 2 == 0 }

/-- Whether the fraction `num / den`, in quarters of a unit, lies in the window. -/
def holds (w : Window) (num den : Nat) : Bool :=
  if w.closed then w.low * den ≤ num && num ≤ w.high * den
  else w.low * den < num && num < w.high * den

/-- `10^exponent` as a fraction, in quarters of a unit. -/
def grid (exponent : Int) : Nat × Nat :=
  if 0 ≤ exponent then (4 * unitsPerOne * 10 ^ exponent.toNat, 1)
  else (4 * unitsPerOne, 10 ^ (-exponent).toNat)

/-- The multiple of `10^exponent` in the window that is nearest to the centre; of two equally near
the even one. -/
def pick (w : Window) (exponent : Int) : Option Nat :=
  let (p, q) := grid exponent
  let below := w.centre * q / p
  let toBelow := w.centre * q - below * p
  let toAbove := (below + 1) * p - w.centre * q
  let (near, far) :=
    if toBelow < toAbove ∨ (toBelow = toAbove ∧ below % 2 = 0) then (below, below + 1)
    else (below + 1, below)
  if w.holds (near * p) q then some near
  else if w.holds (far * p) q then some far
  else none

/-- The first power of ten from `exponent` downward with a multiple in the window, and that
multiple. -/
def search (w : Window) : Nat → Int → Nat × Int
  | 0, exponent => (w.centre / (4 * unitsPerOne), exponent)
  | tries + 1, exponent =>
    match w.pick exponent with
    | some d => (d, exponent)
    | none => w.search tries (exponent - 1)

/-- A power of ten above the window. -/
def top (w : Window) : Int :=
  let u := w.centre / 4
  if unitsPerOne ≤ u then (natText (u / unitsPerOne)).length
  else 2 - ((natText (unitsPerOne / u)).length : Int)

end Window

/-- The shortest decimal that is read back as the magnitude of `rank`. -/
def shortest (negative : Bool) (rank : Nat) : Decimal :=
  if rank = 0 then ⟨negative, 0, 0⟩
  else
    let w := Window.ofRank rank
    let (d, k) := w.search 20 w.top
    ⟨negative, d, k⟩

namespace Binary64

/-! ### Texts -/

/-- An exponent, with its sign and at least two digits. -/
def exponentText (e : Int) : List Char :=
  let digits := natText e.natAbs
  'e' :: (if e < 0 then '-' else '+') :: (if digits.length < 2 then '0' :: digits else digits)

/-- Digits with a point after the first, if there are more. -/
def scientific (digits : List Char) : List Char :=
  match digits with
  | [] => []
  | [d] => [d]
  | d :: rest => d :: '.' :: rest

/-- A decimal magnitude as it is shown: in full from `10^-4` up to `10^16`, whole numbers with
`.0`, and with an exponent elsewhere. -/
def magnitudeText (d : Decimal) : List Char :=
  let lead := d.magnitude
  if -4 < lead ∧ lead ≤ 16 then
    if 0 ≤ d.exponent then Decimal.fixedMagnitude d.coefficient d.exponent ++ ['.', '0']
    else Decimal.fixedMagnitude d.coefficient d.exponent
  else scientific (natText d.coefficient) ++ exponentText (lead - 1)

/-- The number as it is shown. -/
def text : Binary64 → List Char
  | .finite s r => (if s then ['-'] else []) ++ magnitudeText (shortest s r)
  | .infinite s => (if s then "-inf" else "inf").toList
  | .undefined _ => "nan".toList

/-- The number in digits only: a whole number exactly, any other finite number by its shortest
digits. -/
def plainText : Binary64 → List Char
  | .finite s r =>
    if isWhole (.finite s r) then intText ((signedUnits s r).tdiv unitsPerOne)
    else (shortest s r).fixed
  | x => x.text

end Binary64

end Postprocessor
