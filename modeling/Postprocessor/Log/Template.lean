import Postprocessor.Text.Digit

/-!
# Message templates

The message of a log record may have places for its arguments, each of which starts with a percent
sign and ends with the letter of a conversion.  Two percent signs stand for one.

* `Conversion`: a place for an argument.
* `Piece`: a part of a template.
* `pieces`: the parts of a template.
-/

namespace Postprocessor.Log

/-- The key of a place, between parentheses. -/
inductive Key where
  | absent
  /-- A key without its closing parenthesis. -/
  | unclosed
  | named (key : String)
  deriving DecidableEq, Repr, Inhabited

/-- A width or a precision. -/
inductive Amount where
  | absent
  | given (n : Nat)
  /-- The next argument. -/
  | argument
  deriving DecidableEq, Repr, Inhabited

/-- The marks that change how a value is written. -/
structure Flags where
  /-- A minus: the value stands at the left of its place. -/
  left : Bool
  /-- A plus: a number has a sign in any case. -/
  sign : Bool
  /-- A blank: a number without a sign has a blank instead. -/
  blank : Bool
  /-- A number sign: what could be left out is written. -/
  full : Bool
  /-- A zero: a number is filled up with zeros. -/
  zero : Bool
  deriving DecidableEq, Repr, Inhabited

/-- A place for an argument. -/
structure Conversion where
  key : Key
  flags : Flags
  width : Amount
  precision : Amount
  /-- The letter of the conversion, if the template does not end before it. -/
  letter : Option Char
  deriving DecidableEq, Repr, Inhabited

/-! ### Reading a place -/

/-- A key up to the parenthesis that closes it, with `depth` others open inside. -/
def scanKey (done : List Char) (depth : Nat) : List Char → Key × List Char
  | [] => (.unclosed, [])
  | c :: rest =>
    if c == ')' then
      match depth with
      | 0 => (.named (String.ofList done.reverse), rest)
      | depth + 1 => scanKey (c :: done) depth rest
    else scanKey (c :: done) (if c == '(' then depth + 1 else depth) rest

/-- The key a text starts with. -/
def keyOf : List Char → Key × List Char
  | '(' :: rest => scanKey [] 0 rest
  | cs => (.absent, cs)

/-- A mark that changes how a value is written. -/
def isFlag (c : Char) : Bool := c == '-' || c == '+' || c == ' ' || c == '#' || c == '0'

/-- The marks that a run of characters sets. -/
def Flags.ofRun (run : List Char) : Flags :=
  ⟨run.contains '-', run.contains '+', run.contains ' ', run.contains '#', run.contains '0'⟩

/-- The number that ASCII digits stand for. -/
def asciiNumber (cs : List Char) : Nat := cs.foldl (fun n c => 10 * n + (c.toNat - 48)) 0

/-- The width or the precision a text starts with. -/
def amountOf (cs : List Char) : Amount × List Char :=
  match cs with
  | '*' :: rest => (.argument, rest)
  | cs =>
    let digits := cs.takeWhile Char.isDigit
    if digits.isEmpty then (.absent, cs)
    else (.given (asciiNumber digits), cs.dropWhile Char.isDigit)

/-- The precision a text starts with, after a point; a point alone is a precision of zero. -/
def precisionOf (cs : List Char) : Amount × List Char :=
  match cs with
  | '.' :: rest =>
    match amountOf rest with
    | (.absent, rest') => (.given 0, rest')
    | found => found
  | cs => (.absent, cs)

/-- The text without the letter for the size of a number, which says nothing. -/
def dropSize (cs : List Char) : List Char :=
  match cs with
  | c :: rest => if c == 'h' || c == 'l' || c == 'L' then rest else cs
  | [] => []

/-- The place a text starts with, after the percent sign, and the rest. -/
def Conversion.scan (cs : List Char) : Conversion × List Char :=
  let (key, cs) := keyOf cs
  let flags := Flags.ofRun (cs.takeWhile isFlag)
  let (width, cs) := amountOf (cs.dropWhile isFlag)
  let (precision, cs) := precisionOf cs
  let cs := dropSize cs
  (⟨key, flags, width, precision, cs.head?⟩, cs.tail)

/-! ### Templates -/

/-- A part of a template. -/
inductive Piece where
  | literal (c : Char)
  /-- A place for an argument; `index` is where its letter stands. -/
  | place (c : Conversion) (index : Nat)
  deriving DecidableEq, Repr, Inhabited

/-- The parts of the template from `index` on, of which the first `skipped` characters belong to a
part that was read before. -/
def piecesFrom (index : Nat) : Nat → List Char → List Piece
  | _, [] => []
  | skipped + 1, _ :: rest => piecesFrom (index + 1) skipped rest
  | 0, c :: rest =>
    if c != '%' then .literal c :: piecesFrom (index + 1) 0 rest
    else if rest.head? == some '%' then .literal '%' :: piecesFrom (index + 1) 1 rest
    else
      let (conversion, rest') := Conversion.scan rest
      let taken := rest.length - rest'.length
      .place conversion (index + taken) :: piecesFrom (index + 1) taken rest

/-- The parts of a template. -/
def pieces (cs : List Char) : List Piece := piecesFrom 0 0 cs

/-- A text without percent signs is its own template. -/
theorem piecesFrom_of_not_mem {cs : List Char} (h : '%' ∉ cs) (index : Nat) :
    piecesFrom index 0 cs = cs.map .literal := by
  induction cs generalizing index with
  | nil => rfl
  | cons c rest ih =>
    simp only [List.mem_cons, not_or] at h
    have hc : (c != '%') = true := by simpa using Ne.symm h.1
    simp [piecesFrom, hc, ih h.2]

end Postprocessor.Log
