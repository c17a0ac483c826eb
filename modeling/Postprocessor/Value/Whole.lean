import Postprocessor.Decimal.Literal
import Postprocessor.Value

/-!
# Values as whole numbers

A setting that is a whole number may be given as a number, which loses its fraction, or as a text
of digits.

* `WholeFault`: why a value is no whole number.
* `Value.whole`: the whole number.
-/

namespace Postprocessor

/-- Why a value is no whole number. -/
inductive WholeFault where
  /-- Neither a number nor a text. -/
  | badType (typeName : String)
  /-- A text that is no whole number, as messages show it. -/
  | badLiteral (shown : String)
  /-- A text with more than `digitLimit` digits. -/
  | tooLong (digits : Nat)
  | undefined
  | infinite
  deriving DecidableEq, Repr

/-- The text that is reported. -/
def WholeFault.message : WholeFault → String
  | .badType typeName =>
    "int() argument must be a string, a bytes-like object or a real number, not '" ++ typeName
      ++ "'"
  | .badLiteral shown => "invalid literal for int() with base 10: " ++ shown
  | .tooLong digits =>
    "Exceeds the limit (4300 digits) for integer string conversion: value has "
      ++ String.ofList (natText digits)
      ++ " digits; use sys.set_int_max_str_digits() to increase the limit"
  | .undefined => "cannot convert float NaN to integer"
  | .infinite => "cannot convert float infinity to integer"

/-- The most characters of a text that a report of a bad literal shows. -/
abbrev shownLimit : Nat := 200

/-- A text as a report of a bad literal shows it. -/
def cutShown (shown : String) : String := String.ofList (shown.toList.take shownLimit)

/-- The whole number that `text` spells; `shown` is the text as messages show it. -/
def wholeOfText (text shown : String) : Except WholeFault Int :=
  match wholeRun? text.toList with
  | some w =>
    if digitLimit < w.digits.length then .error (.tooLong w.digits.length)
    else if w.digits.isEmpty || !w.rest.isEmpty then .error (.badLiteral (cutShown shown))
    else .ok w.value
  | none => .error (.badLiteral (cutShown shown))

/-- The whole number that bytes spell.  Bytes beyond ASCII are no digits and no blanks. -/
def wholeOfBytes (bs : List UInt8) : Except WholeFault Int :=
  let char := fun (b : UInt8) => if b.toNat < 128 then Char.ofNat b.toNat else '\uFFFD'
  wholeOfText (String.ofList (bs.map char)) (Text.quotedBytes bs)

namespace Value

/-- The whole number that a value stands for. -/
def whole : Value → Except WholeFault Int
  | .bool b => .ok (if b then 1 else 0)
  | .int i => .ok i
  | .float x =>
    match x with
    | .infinite _ => .error .infinite
    | .undefined _ => .error .undefined
    | x => .ok (x.whole?.getD 0)
  | .text s => wholeOfText s s.quotedForm
  | .symbol s => wholeOfText s.word s.shown
  | .foreign (.bytes bs) => wholeOfBytes bs
  | .foreign (.broken cs) => .error (.badLiteral (cutShown (CodePoint.quotedForm cs)))
  | v => .error (.badType v.fullTypeName)

end Value

end Postprocessor
