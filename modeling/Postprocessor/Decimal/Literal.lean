import Postprocessor.Decimal.Basic
import Postprocessor.Text.Blank
import Postprocessor.Text.Digit

/-!
# Number literals

A number is written as an optional sign, digits with an optional point among them or before them,
and an optional power of ten.  The digits may be those of any script.

* `scanDigits`: a run of digits and its value.
* `scanDecimal`: the longest number a text starts with.
* `WholeRun`: a text cut into a sign, the digits of a whole number and what follows them.
* `wholeOfText?`: a text that is a whole number and nothing else.
* `Binary64.ofText?`: a text that is a number and nothing else, infinities included.
-/

namespace Postprocessor
open Text

/-- The value of a run of digits read after a number with value `n`. -/
def digitsValue (n : Nat) (cs : List Char) : Nat :=
  cs.foldl (fun v c => 10 * v + (digitValue? c).getD 0) n

/-- The run of digits a text starts with, and the rest. -/
def scanDigits (cs : List Char) : List Char × List Char :=
  (cs.takeWhile isDigit, cs.dropWhile isDigit)

/-- An optional sign: whether it is a minus, and the rest. -/
def scanSign : List Char → Bool × List Char
  | '-' :: rest => (true, rest)
  | '+' :: rest => (false, rest)
  | cs => (false, cs)

/-- The power of ten a text starts with, zero if it starts with none. -/
def scanExponent (cs : List Char) : Int × List Char :=
  match cs with
  | c :: rest =>
    if c == 'e' || c == 'E' then
      let (negative, rest') := scanSign rest
      let (digits, rest'') := scanDigits rest'
      if digits.isEmpty then (0, cs)
      else
        let v : Int := digitsValue 0 digits
        (if negative then -v else v, rest'')
    else (0, cs)
  | [] => (0, cs)

/-- The digits before and after the point of the number a text starts with, and the rest.  At least
one of the two runs has a digit, and a point without digits before it has some after it. -/
def scanMantissa (cs : List Char) : Option (List Char × List Char × List Char) :=
  let (whole, rest) := scanDigits cs
  match rest with
  | '.' :: rest' =>
    let (fraction, rest'') := scanDigits rest'
    if whole.isEmpty && fraction.isEmpty then none else some (whole, fraction, rest'')
  | _ => if whole.isEmpty then none else some (whole, [], rest)

/-- The longest number a text starts with, and the rest. -/
def scanDecimal (cs : List Char) : Option (Decimal × List Char) :=
  let (negative, cs') := scanSign cs
  match scanMantissa cs' with
  | none => none
  | some (whole, fraction, rest) =>
    let (e, rest') := scanExponent rest
    some (⟨negative, digitsValue 0 (whole ++ fraction), e - fraction.length⟩, rest')

/-- The text without its underscores, if each of them stands between two digits; `before` is the
character before the text. -/
def dropUnderscores (before : Option Char) : List Char → Option (List Char)
  | [] => some []
  | '_' :: rest =>
    match before, rest with
    | some b, c :: _ => if isDigit b && isDigit c then dropUnderscores (some '_') rest else none
    | _, _ => none
  | c :: rest => (dropUnderscores (some c) rest).map (c :: ·)

/-- A blank that may stand around a number: any but the separators of the ASCII control block. -/
def isMargin (c : Char) : Bool := isBlank c && !(0x1C ≤ c.toNat && c.toNat ≤ 0x1F)

/-- The text without the blanks around a number. -/
def trimMargin (cs : List Char) : List Char :=
  ((cs.dropWhile isMargin).reverse.dropWhile isMargin).reverse

/-- A whole number and what follows it. -/
structure WholeRun where
  negative : Bool
  /-- The digits, single underscores between them left out. -/
  digits : List Char
  rest : List Char

/-- The whole number a text starts with, after blanks; `none` if an underscore stands where none
may. -/
def wholeRun? (cs : List Char) : Option WholeRun :=
  let (negative, body) := scanSign (trimMargin cs)
  let isInner := fun c => isDigit c || c == '_'
  (dropUnderscores none (body.takeWhile isInner)).map fun digits =>
    ⟨negative, digits, body.dropWhile isInner⟩

/-- The value of a whole number. -/
def WholeRun.value (w : WholeRun) : Int :=
  let v : Int := digitsValue 0 w.digits
  if w.negative then -v else v

/-- A text that is a whole number, blanks around it and single underscores between its digits left
out. -/
def wholeOfText? (cs : List Char) : Option Int :=
  match wholeRun? cs with
  | some w => if w.digits.isEmpty || !w.rest.isEmpty then none else some w.value
  | none => none

namespace Binary64

/-- A text that is a number, blanks around it and single underscores between its digits left out.
Infinities and the undefined number go by their names. -/
def ofText? (cs : List Char) : Option Binary64 :=
  match dropUnderscores none (trimMargin cs) with
  | none => none
  | some cs =>
    match scanDecimal cs with
    | some (d, []) => some d.toBinary64
    | _ =>
      let (negative, cs') := scanSign cs
      let name := String.ofList (cs'.map Char.toLower)
      if name == "inf" || name == "infinity" then some (.infinite negative)
      else if name == "nan" then some (.undefined none)
      else none

end Binary64

end Postprocessor
