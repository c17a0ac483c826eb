import Postprocessor.Value.Whole
import Postprocessor.Yaml.Tag

/-!
# Numbers of a Yaml text

A scalar that is tagged as a number need not look like one: blanks around it, digits of any script
and a second sign or mark of a base after the first one are taken too.

* `intOf`: the whole number that a scalar stands for.
* `floatOf`: the number that a scalar stands for.
-/

namespace Postprocessor.Yaml

/-- The text without underscores. -/
def withoutUnderscores (cs : List CodePoint) : List CodePoint := cs.filter (· != .char '_')

/-- Whether a text starts with a minus, and the text without its sign. -/
def signOf : List CodePoint → Bool × List CodePoint
  | .char '-' :: rest => (true, rest)
  | .char '+' :: rest => (false, rest)
  | cs => (false, cs)

/-- The parts of a text between colons. -/
def partsOf : List CodePoint → List (List CodePoint)
  | [] => [[]]
  | .char ':' :: rest => [] :: partsOf rest
  | c :: rest =>
    match partsOf rest with
    | part :: parts => (c :: part) :: parts
    | [] => [[c]]

/-! ### Whole numbers -/

/-- The value of a digit of a base. -/
def digitIn? (base : Nat) (c : Char) : Option Nat :=
  ((Text.digitValue? c) <|> hexValue? c).filter (· < base)

/-- The text after the mark of a base, which may be left out. -/
def dropMark (base : Nat) (cs : List Char) : List Char :=
  let marks : List (Nat × List Char) := [(2, ['b', 'B']), (8, ['o', 'O']), (16, ['x', 'X'])]
  match cs with
  | '0' :: c :: rest => if ((marks.lookup base).getD []).contains c then rest else cs
  | cs => cs

/-- The whole number that a text of digits of a base stands for. -/
def numberIn? (base : Nat) (cs : List Char) : Option Int :=
  let (negative, body) := scanSign (trimMargin cs)
  let digits := dropMark base body
  if digits.isEmpty then none
  else
    let n := digits.foldlM (fun n c => (digitIn? base c).map (base * n + ·)) 0
    n.map fun n => if negative then -(n : Int) else n

/-- The report of a text that is no whole number. -/
def badInt (base : Nat) (cs : List CodePoint) : Fault :=
  .badNumber s!"invalid literal for int() with base {base}: {cutShown (CodePoint.quotedForm cs)}"

/-- The whole number that a text in a base stands for. -/
def inBase (base : Nat) (cs : List CodePoint) : Except Fault Int :=
  match (CodePoint.chars? cs).bind (numberIn? base) with
  | some n => .ok n
  | none => .error (badInt base cs)

/-- The decimal number that a text stands for. -/
def decimalInt (cs : List CodePoint) : Except Fault Int :=
  match CodePoint.text? cs with
  | some s => (wholeOfText s s.quotedForm).mapError fun why => .badNumber why.message
  | none => .error (badInt 10 cs)

/-- The number of units of which each is sixty of the next. -/
def sixtiethsOf (parts : List Int) : Int := parts.foldl (fun n p => 60 * n + p) 0

/-- The magnitude of a whole number. -/
def magnitudeOf (cs : List CodePoint) : Except Fault Int :=
  match cs with
  | [] => .error .emptyNumber
  | [.char '0'] => .ok 0
  | .char '0' :: .char 'b' :: rest => inBase 2 rest
  | .char '0' :: .char 'x' :: rest => inBase 16 rest
  | .char '0' :: _ => inBase 8 cs
  | cs =>
    if cs.contains (.char ':') then ((partsOf cs).mapM decimalInt).map sixtiethsOf
    else decimalInt cs

/-- The whole number that a scalar stands for. -/
def intOf (text : List CodePoint) : Except Fault Int :=
  let (negative, body) := signOf (withoutUnderscores text)
  (magnitudeOf body).map fun n => if negative then -n else n

/-! ### Numbers with a fraction -/

/-- A number with the other sign. -/
def opposite : Binary64 → Binary64
  | .finite s r => .finite (!s) r
  | .infinite s => .infinite (!s)
  | .undefined mark => .undefined mark

/-- The decimal number that a text stands for. -/
def decimalFloat (cs : List CodePoint) : Except Fault Binary64 :=
  match (CodePoint.chars? cs).bind Binary64.ofText? with
  | some x => .ok x
  | none => .error (.badNumber s!"could not convert string to float: {CodePoint.quotedForm cs}")

/-- The number nearest to the product of a number and a magnitude. -/
def scaled (x : Binary64) (rank : Fin rankCount) : Binary64 :=
  match x with
  | .finite s r => .nearest s (Binary64.units r * Binary64.units rank) (unitsPerOne * unitsPerOne)
  | x => x

/-- The number nearest to a sum. -/
def sum (x y : Binary64) : Binary64 :=
  match x, y with
  | .finite s r, .finite t q =>
    let units := Binary64.signedUnits s r + Binary64.signedUnits t q
    .nearest (units < 0) units.natAbs unitsPerOne
  | .finite _ _, y => y
  | x, .finite _ _ => x
  | .infinite s, .infinite t => if s == t then .infinite s else .undefined none
  | _, _ => .undefined none

/-- The number of units of which each is sixty of the next.  They are added up from the last one:
the size of the unit, each product and each sum are rounded. -/
def sixtiethsFloat (parts : List (List CodePoint)) : Except Fault Binary64 := do
  let parts ← parts.mapM decimalFloat
  let (total, _) ← parts.reverse.foldlM (fun (total, size) x =>
    match Binary64.nearest false size 1 with
    | .finite _ rank => .ok (sum total (scaled x rank), 60 * size)
    | _ => .error .tooLarge) (.zero false, 1)
  return total

/-- The number that a scalar stands for.  Texts for no number are one and the same number wherever
they have a point before them, and otherwise are told apart by a mark. -/
def floatOf (mark : Nat) (text : List CodePoint) : Except Fault Binary64 := do
  let cs := CodePoint.lower (withoutUnderscores text)
  if cs.isEmpty then throw .emptyNumber
  let (negative, body) := signOf cs
  let magnitude ←
    if body == CodePoint.ofText ".inf" then pure (.infinite false)
    else if body == CodePoint.ofText ".nan" then pure (.undefined none)
    else if body.contains (.char ':') then sixtiethsFloat (partsOf body)
    else decimalFloat body
  match magnitude with
  | .undefined _ =>
    return .undefined (some (if body == CodePoint.ofText ".nan" then 0 else mark + 1))
  | x => return if negative then opposite x else x

end Postprocessor.Yaml
