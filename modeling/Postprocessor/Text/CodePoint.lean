import Postprocessor.Text.Case
import Postprocessor.Text.Quoted

/-!
# Code points

A text may be written by its code points, and some of these are no characters: the halves of the
pairs by which 16-bit units stand for characters beyond `FFFF`.  A text that holds one cannot be
stored, but it can be compared, put into capitals and shown.

* `CodePoint`: a character or a half.
* `CodePoint.ofText`, `CodePoint.text?`: a text as code points, and back.
* `CodePoint.upper`, `CodePoint.lower`: capitals and small letters.
* `CodePoint.quotedForm`: the quoted form.
-/

namespace Postprocessor

/-- A code point. -/
inductive CodePoint where
  | char (c : Char)
  /-- A half of a pair, from `D800` to `DFFF`. -/
  | half (code : Nat)
  deriving DecidableEq, Repr, Inhabited

namespace CodePoint

/-- The code point with a given number. -/
def ofNumber (n : Nat) : CodePoint := if n.isValidChar then .char (Char.ofNat n) else .half n

/-- The character of a code point. -/
def char? : CodePoint → Option Char
  | .char c => some c
  | .half _ => none

/-- The code points of a text. -/
def ofText (s : String) : List CodePoint := s.toList.map .char

/-- The characters of code points without halves. -/
def chars? (cs : List CodePoint) : Option (List Char) := cs.mapM char?

/-- The text of code points without halves. -/
def text? (cs : List CodePoint) : Option String := (chars? cs).map String.ofList

theorem chars?_map_char (cs : List Char) : chars? (cs.map .char) = some cs := by
  induction cs with
  | nil => rfl
  | cons c cs ih =>
    have h : (cs.map CodePoint.char).mapM char? = some cs := ih
    simp [chars?, char?, h]

@[simp] theorem text?_ofText (s : String) : text? (ofText s) = some s := by
  simp [text?, ofText, chars?_map_char]

/-- The text in capitals. -/
def upper (cs : List CodePoint) : List CodePoint :=
  cs.flatMap fun x =>
    match x with
    | .char c => (Text.upperChar c).map .char
    | .half n => [.half n]

/-- The small letters of a text, `before` in reverse order before it.  A half ends a word. -/
def lowerFrom (before : List Char) : List CodePoint → List CodePoint
  | [] => (Text.lower before.reverse).map .char
  | .char c :: rest => lowerFrom (c :: before) rest
  | .half n :: rest => (Text.lower before.reverse).map .char ++ .half n :: lowerFrom [] rest

/-- The text in small letters. -/
def lower (cs : List CodePoint) : List CodePoint := lowerFrom [] cs

/-- A code point inside the quotes `q`. -/
def escape (q : Char) : CodePoint → List Char
  | .char c => Text.escapeChar q c
  | .half n => '\\' :: 'u' :: Text.hexDigits 4 n

/-- The quoted form of a text. -/
def quotedForm (cs : List CodePoint) : String :=
  let q := Text.quoteMark (cs.filterMap char?)
  String.ofList (q :: cs.flatMap (escape q) ++ [q])

end CodePoint

end Postprocessor
