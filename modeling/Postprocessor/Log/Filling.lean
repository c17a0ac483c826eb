import Postprocessor.Decimal.Rounded
import Postprocessor.Fields
import Postprocessor.Log.Template
import Postprocessor.Value.Whole

/-!
# Filling templates

The places of a template take its arguments in order, or by their keys from an argument that is a
single mapping.

* `FillFault`: why arguments do not fit a template.
* `Supply`: the arguments that are left.
* `Shape`: a value as it is written before it is fitted into the width of its place.
* `fill`: a template with its arguments in their places.
-/

namespace Postprocessor.Log

/-- Why arguments do not fit a template. -/
inductive FillFault where
  /-- The template ends within a key. -/
  | openKey
  /-- The template ends within a place. -/
  | openPlace
  | badLetter (c : Char) (index : Nat)
  /-- Too few or too many arguments, or one of a type that its place does not take. -/
  | misfit
  | missingKey (key : String)
  | widthTooBig
  | precisionTooBig
  /-- A width or a precision given by an argument, and the type that it exceeds. -/
  | amountTooBig (typeName : String)
  | noWhole (why : WholeFault)
  /-- A whole number beyond all finite numbers with a fraction. -/
  | beyondFinite
  /-- A number that is no code point. -/
  | noCodePoint
  | unwritable (why : Failure)
  deriving DecidableEq, Repr

namespace FillFault

/-- The kind under which a fault is reported. -/
def kind : FillFault → String
  | .misfit => "TypeError"
  | .missingKey _ => "KeyError"
  | .amountTooBig _ | .beyondFinite | .noCodePoint | .noWhole .infinite => "OverflowError"
  | .unwritable why => why.kind
  | _ => "ValueError"

/-- A letter in a report. -/
def letterShown (c : Char) : Char := if 31 ≤ c.toNat ∧ c.toNat < 127 then c else '?'

/-- The text that is reported. -/
def message : FillFault → String
  | .openKey => "incomplete format key"
  | .openPlace => "incomplete format"
  | .badLetter c index =>
    "unsupported format character '" ++ String.ofList [letterShown c] ++ "' (0x"
      ++ String.ofList (Nat.toDigits 16 c.toNat) ++ s!") at index {index}"
  | .misfit => "the arguments do not fit"
  | .missingKey key => key.quotedForm
  | .widthTooBig => "width too big"
  | .precisionTooBig => "precision too big"
  | .amountTooBig typeName => "Python int too large to convert to C " ++ typeName
  | .noWhole why => why.message
  | .beyondFinite => "int too large to convert to float"
  | .noCodePoint => "%c arg not in range(0x110000)"
  | .unwritable why => why.message

end FillFault

/-! ### Arguments -/

/-- The arguments that are left. -/
structure Supply where
  values : List Value
  /-- The entries of the mapping that is the only argument. -/
  entries : Option (List (Value × Value))

namespace Supply

/-- The arguments of a record. -/
def ofArguments : List Value → Supply
  | [.mapping (e :: es)] => ⟨[.mapping (e :: es)], some (e :: es)⟩
  | values => ⟨values, none⟩

/-- The next argument. -/
def next (s : Supply) : Except FillFault (Value × Supply) :=
  match s.values with
  | v :: rest => .ok (v, { s with values := rest })
  | [] => .error .misfit

/-- The arguments after a key, which replaces all others by its value. -/
def select (s : Supply) : Key → Except FillFault Supply
  | .absent => .ok s
  | key =>
    match s.entries with
    | none => .error .misfit
    | some entries =>
      match key with
      | .named key =>
        match Value.entry? entries (.text key) with
        | some v => .ok { s with values := [v] }
        | none => .error (.missingKey key)
      | _ => .error .openKey

/-- Whether nothing is left that has to be used. -/
def isSpent (s : Supply) : Bool := s.values.isEmpty || s.entries.isSome

end Supply

/-- The greatest width. -/
abbrev widthLimit : Nat := 2 ^ 63 - 1

/-- The greatest precision. -/
abbrev precisionLimit : Nat := 2 ^ 31 - 1

/-- The next argument, which has to be a whole number. -/
def nextInt (s : Supply) : Except FillFault (Int × Supply) := do
  let (v, s) ← s.next
  match v.int? with
  | some i => .ok (i, s)
  | none => .error .misfit

/-- The width of a place, which an argument below zero puts at the left. -/
def widthOf (s : Supply) : Amount → Except FillFault (Int × Supply)
  | .absent => .ok (0, s)
  | .given n => if widthLimit < n then .error .widthTooBig else .ok (n, s)
  | .argument => do
    let (i, s) ← nextInt s
    if widthLimit < i.natAbs then .error (.amountTooBig "ssize_t") else .ok (i, s)

/-- The precision of a place. -/
def precisionIn (s : Supply) : Amount → Except FillFault (Option Nat × Supply)
  | .absent => .ok (none, s)
  | .given n => if precisionLimit < n then .error .precisionTooBig else .ok (some n, s)
  | .argument => do
    let (i, s) ← nextInt s
    if precisionLimit < i.natAbs then .error (.amountTooBig "int") else .ok (some i.toNat, s)

/-! ### Values -/

/-- A value as it is written before it is fitted into the width of its place. -/
structure Shape where
  /-- Whether the value is a number. -/
  numeric : Bool
  /-- The sign of a number. -/
  sign : List Char
  /-- The mark of the base of a number. -/
  mark : List Char
  body : List Char

namespace Shape

/-- A text, cut to a precision. -/
def ofText (precision : Option Nat) (cs : List Char) : Shape :=
  ⟨false, [], [], match precision with
    | some n => cs.take n
    | none => cs⟩

/-- The sign of a number. -/
def signOf (flags : Flags) (negative : Bool) : List Char :=
  if negative then ['-'] else if flags.sign then ['+'] else if flags.blank then [' '] else []

/-- A whole number in a base, of at least `precision` digits. -/
def ofInt (flags : Flags) (precision : Option Nat) (base : Nat) (mark : List Char) (i : Int) :
    Shape :=
  let digits := Nat.toDigits base i.natAbs
  let zeros := List.replicate (precision.getD 0 - digits.length) '0'
  ⟨true, signOf flags (i < 0), if flags.full then mark else [], zeros ++ digits⟩

/-- The text of a number, which may start with a minus. -/
def ofNumber (flags : Flags) (cs : List Char) : Shape :=
  match cs with
  | '-' :: rest => ⟨true, signOf flags true, [], rest⟩
  | cs => ⟨true, signOf flags false, [], cs⟩

/-- The same in capitals. -/
def inCapitals (s : Shape) : Shape :=
  { s with mark := s.mark.map Char.toUpper, body := s.body.map Char.toUpper }

/-- A value in a place of a given width. -/
def fit (s : Shape) (flags : Flags) (width : Int) : List Char :=
  let whole := s.sign ++ s.mark ++ s.body
  let gap := width.natAbs - whole.length
  if flags.left || width < 0 then whole ++ List.replicate gap ' '
  else if s.numeric && flags.zero then s.sign ++ s.mark ++ List.replicate gap '0' ++ s.body
  else List.replicate gap ' ' ++ whole

theorem length_fit (s : Shape) (flags : Flags) (width : Int) :
    (s.fit flags width).length
      = max width.natAbs (s.sign.length + s.mark.length + s.body.length) := by
  unfold fit
  split
  · simp only [List.length_append, List.length_replicate]; omega
  · split <;> simp only [List.length_append, List.length_replicate] <;> omega

end Shape

/-- The whole number that a value stands for where fractions are dropped. -/
def wholeNumber (v : Value) : Except FillFault Int :=
  match v with
  | .bool _ | .int _ | .float _ => v.whole.mapError .noWhole
  | _ => .error .misfit

/-- The whole number that a value is. -/
def exactInt (v : Value) : Except FillFault Int :=
  match v.int? with
  | some i => .ok i
  | none => .error .misfit

/-- The number with a fraction that a value stands for. -/
def fractional (v : Value) : Except FillFault Binary64 :=
  match v with
  | .float x => .ok x
  | v =>
    match v.int? with
    | none => .error .misfit
    | some i =>
      match Binary64.nearest (i < 0) i.natAbs 1 with
      | .infinite _ => .error .beyondFinite
      | x => .ok x

/-- The character that a value stands for. -/
def character (v : Value) : Except FillFault Char :=
  match v.text? with
  | some s =>
    match s.toList with
    | [c] => .ok c
    | _ => .error .misfit
  | none => do
    let i ← exactInt v
    if 0 ≤ i ∧ i < 0x110000 then .ok (Char.ofNat i.toNat) else .error .noCodePoint

/-- A text in ASCII, everything else escaped. -/
def inAscii (cs : List Char) : List Char :=
  cs.flatMap fun c => if c.toNat < 128 then [c] else Text.escapeCode c

/-- The text of a value for one of the letters of a text. -/
def textShape (letter : Char) (precision : Option Nat) (v : Value) : Except FillFault Shape := do
  let s ← (if letter == 's' then v.written else v.shown).mapError .unwritable
  .ok (.ofText precision (if letter == 'a' then inAscii s.toList else s.toList))

/-- A whole number in decimal digits. -/
def decimalShape (flags : Flags) (precision : Option Nat) (i : Int) : Except FillFault Shape := do
  let _ ← (Value.intWritten i).mapError .unwritable
  .ok (.ofInt flags precision 10 [] i)

/-- A number with a fraction. -/
def fractionShape (way : Precise) (flags : Flags) (precision : Option Nat) (v : Value) :
    Except FillFault Shape := do
  let x ← fractional v
  .ok (.ofNumber flags (x.precise way flags.full (precision.getD 6)))

/-- A value as the letter of its place says; `index` is where the letter stands. -/
def shape (letter : Char) (index : Nat) (flags : Flags) (precision : Option Nat) (v : Value) :
    Except FillFault Shape :=
  match letter with
  | 's' | 'r' | 'a' => textShape letter precision v
  | 'd' | 'i' | 'u' => (wholeNumber v).bind (decimalShape flags precision)
  | 'o' => (exactInt v).map (Shape.ofInt flags precision 8 ['0', 'o'])
  | 'x' => (exactInt v).map (Shape.ofInt flags precision 16 ['0', 'x'])
  | 'X' => (exactInt v).map fun i => (Shape.ofInt flags precision 16 ['0', 'x'] i).inCapitals
  | 'e' => fractionShape .scientific flags precision v
  | 'E' => (fractionShape .scientific flags precision v).map Shape.inCapitals
  | 'f' => fractionShape .fixed flags precision v
  | 'F' => (fractionShape .fixed flags precision v).map Shape.inCapitals
  | 'g' => fractionShape .general flags precision v
  | 'G' => (fractionShape .general flags precision v).map Shape.inCapitals
  | 'c' => (character v).map fun c => .ofText none [c]
  | c => .error (.badLetter c index)

/-! ### Templates -/

/-- A place with its argument, and the arguments that are left. -/
def Conversion.fill (c : Conversion) (index : Nat) (s : Supply) :
    Except FillFault (List Char × Supply) := do
  let s ← s.select c.key
  let (width, s) ← widthOf s c.width
  let (precision, s) ← precisionIn s c.precision
  match c.letter with
  | none => .error .openPlace
  | some letter =>
    let (v, s) ← s.next
    let shape ← shape letter index c.flags precision v
    .ok (shape.fit c.flags width, s)

/-- Parts of a template with their arguments, all of which have to be used. -/
def fillPieces (s : Supply) : List Piece → Except FillFault (List Char)
  | [] => if s.isSpent then .ok [] else .error .misfit
  | .literal c :: rest => (fillPieces s rest).map (c :: ·)
  | .place c index :: rest => do
    let (cs, s) ← c.fill index s
    (fillPieces s rest).map (cs ++ ·)

/-- A template with its arguments in their places.  Without arguments it stays as it is. -/
def fill (template : String) (arguments : List Value) : Except FillFault String :=
  if arguments.isEmpty then .ok template
  else (fillPieces (.ofArguments arguments) (pieces template.toList)).map String.ofList

@[simp] theorem fill_nil (template : String) : fill template [] = .ok template := rfl

end Postprocessor.Log
