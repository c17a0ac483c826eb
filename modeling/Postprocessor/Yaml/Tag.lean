import Postprocessor.Text.Parts
import Postprocessor.Yaml.Scalar
import Postprocessor.Yaml.Timestamp

/-!
# Tags

* `Tag`: the kind of a node.
* `Tag.ofName`: the tag with a given name.
* `Tag.ofPlain`: the tag of a text that is given none, by what the text looks like.
-/

namespace Postprocessor.Yaml

/-! ### Tags -/

/-- The kind of a node. -/
inductive Tag where
  | null | bool | int | float | text | sequence | mapping
  /-- A key whose value is merged into the mapping. -/
  | merge
  /-- A key that stands for the value of the mapping. -/
  | default
  | timestamp
  | bytes
  | set
  /-- A sequence of mappings with one entry each. -/
  | pairs
  | unknown
  deriving DecidableEq, Repr, Inhabited

namespace Tag

/-- What the names of the standard tags start with. -/
def standard : String := "tag:yaml.org,2002:"

/-- The tag with a given name. -/
def ofName (name : String) : Tag :=
  let names : List (String × Tag) :=
    [("null", .null), ("bool", .bool), ("int", .int), ("float", .float), ("str", .text),
     ("seq", .sequence), ("map", .mapping), ("merge", .merge), ("value", .default),
     ("timestamp", .timestamp), ("binary", .bytes), ("set", .set), ("omap", .pairs),
     ("pairs", .pairs)]
  ((names.map fun e => (standard ++ e.1, e.2)).lookup name).getD .unknown

/-! ### Tags of plain texts -/

/-- The text without a sign. -/
def dropSign (cs : List Char) : List Char :=
  match cs with
  | '-' :: rest => rest
  | '+' :: rest => rest
  | cs => cs

/-- A digit, or an underscore among digits. -/
def isInner (c : Char) : Bool := c.isDigit || c == '_'

/-- A digit, and more digits and underscores after it. -/
def isDigits : List Char → Bool
  | c :: rest => c.isDigit && rest.all isInner
  | [] => false

/-- The same without a zero at the start. -/
def isCount (cs : List Char) : Bool := isDigits cs && cs.head? != some '0'

/-- A number below sixty. -/
def isSixtieth (cs : List Char) : Bool :=
  match cs with
  | [c] => c.isDigit
  | [c, d] => '0' ≤ c && c ≤ '5' && d.isDigit
  | _ => false

/-- A whole number: binary, octal, decimal, hexadecimal or in sixtieths. -/
def isInt (text : List Char) : Bool :=
  let body := dropSign text
  let based := match body with
    | '0' :: 'b' :: rest => !rest.isEmpty && rest.all fun c => c == '0' || c == '1' || c == '_'
    | '0' :: 'x' :: rest => !rest.isEmpty && rest.all fun c => (hexValue? c).isSome || c == '_'
    | '0' :: rest => rest.all fun c => ('0' ≤ c && c ≤ '7') || c == '_'
    | _ => false
  let sixtieths := match Text.partsAt (· == ':') body with
    | first :: part :: parts => isCount first && (part :: parts).all isSixtieth
    | _ => false
  based || isCount body || sixtieths

/-- A power of ten, with its sign, or nothing. -/
def isExponent (cs : List Char) : Bool :=
  match cs with
  | [] => true
  | e :: sign :: c :: digits =>
    (e == 'e' || e == 'E') && (sign == '+' || sign == '-') && (c :: digits).all Char.isDigit
  | _ => false

/-- A number with a point, an infinity or the undefined number. -/
def isFloat (text : List Char) : Bool :=
  let body := dropSign text
  let whole := body.takeWhile (· != '.')
  match body.drop whole.length with
  | '.' :: rest =>
    let fraction := rest.takeWhile isInner
    let after := rest.drop fraction.length
    let sixtieths := match Text.partsAt (· == ':') whole with
      | first :: part :: parts => isDigits first && (part :: parts).all isSixtieth
      | _ => false
    (isDigits whole && isExponent after)
      || (text.head? == some '.' && isDigits fraction && isExponent after)
      || (sixtieths && after.isEmpty)
      || (whole.isEmpty && ["inf", "Inf", "INF"].contains (String.ofList rest))
      || (text.head? == some '.' && ["nan", "NaN", "NAN"].contains (String.ofList rest))
  | _ => false

/-- The words for true, in small letters. -/
def trueWords : List String := ["yes", "true", "on"]

/-- The words for false, in small letters. -/
def falseWords : List String := ["no", "false", "off"]

/-- Whether letters are all small, all capitals, or small but for the first. -/
def isCased (cs : List Char) : Bool :=
  cs.all Char.isLower || cs.all Char.isUpper || cs.tail.all Char.isLower

/-- A word for a truth value. -/
def isSwitch (cs : List Char) : Bool :=
  isCased cs && (trueWords ++ falseWords).contains (String.ofList (cs.map Char.toLower))

/-- A word for nothing. -/
def isNull (cs : List Char) : Bool :=
  ["", "~", "null", "Null", "NULL"].contains (String.ofList cs)

/-- A date or a timestamp. -/
def isTimestamp (cs : List Char) : Bool := (TimeFields.read? cs).any TimeFields.isPlain

/-- A sign of Yaml that stands alone. -/
def isSign (cs : List Char) : Bool := [['!'], ['&'], ['*']].contains cs

/-- The tag of the characters of a plain text. -/
def ofChars (cs : List Char) : Tag :=
  if isSwitch cs then .bool
  else if isFloat cs then .float
  else if isInt cs then .int
  else if cs == ['<', '<'] then .merge
  else if isNull cs then .null
  else if isTimestamp cs then .timestamp
  else if cs == ['='] then .default
  else if isSign cs then .unknown
  else .text

/-- The text without a line feed at its end. -/
def dropLineFeed (cs : List Char) : List Char :=
  if cs.getLast? = some '\n' then cs.dropLast else cs

/-- The tag of a plain text.  A line feed at the end of a text makes no difference. -/
def ofPlain (text : List CodePoint) : Tag :=
  match CodePoint.chars? text with
  | some ['\n'] | none => .text
  | some cs => ofChars (dropLineFeed cs)

end Tag

end Postprocessor.Yaml
