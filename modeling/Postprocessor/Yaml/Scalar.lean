import Postprocessor.Text.CodePoint
import Postprocessor.Yaml.Cursor

/-!
# Scalars of a Yaml text

* `quoted`: a text between quotes.
* `block`: a text that is indented below its header, line by line or folded.
* `plain`: a text without quotes.

A break between two lines of a quoted, folded or plain text stands for a space, and every further
break for itself.
-/

namespace Postprocessor.Yaml

/-- The text of a break that is followed by other breaks: a line feed stands for a space if it is
alone, and for nothing if it is not. -/
def fold (first : Char) (others : List Char) : List Char :=
  if first != '\n' then first :: others
  else if others.isEmpty then [' ']
  else others

/-! ### Quoted texts -/

/-- The character that a letter after a backslash stands for. -/
def escapes : List (Char × Char) :=
  [('0', '\x00'), ('a', '\x07'), ('b', '\x08'), ('t', '\t'), ('\t', '\t'), ('n', '\n'),
   ('v', '\x0b'), ('f', '\x0c'), ('r', '\r'), ('e', '\x1b'), (' ', ' '), ('"', '"'),
   ('\\', '\\'), ('/', '/'), ('N', '\x85'), ('_', '\u00a0'), ('L', '\u2028'), ('P', '\u2029')]

/-- The number of hexadecimal digits after a letter that stands for a character by its code. -/
def escapeWidths : List (Char × Nat) := [('x', 2), ('u', 4), ('U', 8)]

/-- The value of a hexadecimal digit. -/
def hexValue? (c : Char) : Option Nat :=
  if c.isDigit then some (c.toNat - 48)
  else if 'a' ≤ c && c ≤ 'f' then some (c.toNat - 87)
  else if 'A' ≤ c && c ≤ 'F' then some (c.toNat - 55)
  else none

/-- The number that hexadecimal digits stand for. -/
def hexNumber? (cs : List Char) : Option Nat :=
  cs.foldlM (fun n c => (hexValue? c).map (16 * n + ·)) 0

/-- Reads a code point by its code of a given width. -/
def codePoint (width : Nat) : Reader CodePoint := do
  let digits := (← get).rest.take width
  match hexNumber? digits with
  | some n =>
    require (digits.length == width)
    if 0x10FFFF < n then throw (.badCodePoint n)
    skip width
    return .ofNumber n
  | none => refuse

/-- Reads the breaks and the blanks at the start of lines inside quotes. -/
def quotedBreaks : Nat → Reader (List Char)
  | 0 => return []
  | fuel + 1 => do
    require !(← atDocumentMark)
    let _ ← takeWhile fun c => c == ' ' || c == '\t'
    match ← lineBreak? with
    | some c => return c :: (← quotedBreaks fuel)
    | none => return []

/-- Reads blanks inside quotes. -/
def quotedBlanks (fuel : Nat) : Reader (List Char) := do
  let blanks ← takeWhile fun c => c == ' ' || c == '\t'
  require ((← ahead) != endMark)
  match ← lineBreak? with
  | some c => return fold c (← quotedBreaks fuel)
  | none => return blanks

/-- Reads what a backslash starts. -/
def escaped (fuel : Nat) : Reader (List CodePoint) := do
  let c ← ahead
  match escapes.lookup c, escapeWidths.lookup c with
  | some x, _ =>
    skip 1
    return [.char x]
  | none, some width =>
    skip 1
    return [← codePoint width]
  | none, none =>
    match ← lineBreak? with
    | some _ => return (← quotedBreaks fuel).map .char
    | none => refuse

/-- Reads a text up to its closing quote; `done` is what was read before. -/
def quotedFrom (mark : Char) (done : List CodePoint) : Nat → Reader (List CodePoint)
  | 0 => refuse
  | fuel + 1 => do
    let c ← ahead
    if c == mark then
      if mark == '\'' && (← lookahead 1) == '\'' then
        skip 2
        quotedFrom mark (done ++ [.char '\'']) fuel
      else
        skip 1
        return done
    else if mark == '"' && c == '\\' then
      skip 1
      let cs ← escaped fuel
      quotedFrom mark (done ++ cs) fuel
    else if isSeparator c then
      let cs ← quotedBlanks fuel
      quotedFrom mark (done ++ cs.map .char) fuel
    else
      let cs ← takeWhile fun x =>
        !(isSeparator x || x == mark || (mark == '"' && x == '\\'))
      quotedFrom mark (done ++ cs.map .char) fuel

/-- Reads a text between quotes. -/
def quoted : Reader (List CodePoint) := do
  let mark ← ahead
  let fuel := (← get).rest.length
  skip 1
  quotedFrom mark [] fuel

/-! ### Blocks -/

/-- What is done with the breaks at the end of a block. -/
inductive Chomping where
  | strip | clip | keep
  deriving DecidableEq, Repr

/-- Reads the sign of the chomping, if one is next. -/
def chomping? : Reader (Option Chomping) := do
  match ← ahead with
  | '+' => skip 1; return some .keep
  | '-' => skip 1; return some .strip
  | _ => return none

/-- Reads the digit of the indentation, if one is next. -/
def indentation? : Reader (Option Nat) := do
  let c ← ahead
  if !c.isDigit then return none
  require (c != '0')
  skip 1
  return some (c.toNat - 48)

/-- Reads the header of a block: the chomping and the indentation in any order. -/
def blockHeader : Reader (Chomping × Option Nat) := do
  let before ← chomping?
  let indentation ← indentation?
  let after ← if before.isNone && indentation.isSome then chomping? else pure none
  require (isGap (← ahead))
  return ((before <|> after).getD .clip, indentation)

/-- Passes over spaces up to a column. -/
def skipToColumn (column : Nat) : Reader Unit := do
  let c ← get
  skip ((c.rest.take (column - c.column)).takeWhile (· == ' ')).length

/-- Reads breaks, with spaces up to a column after each of them. -/
def blockBreaks (column : Nat) : Nat → Reader (List Char)
  | 0 => return []
  | fuel + 1 => do
    skipToColumn column
    match ← lineBreak? with
    | some c => return c :: (← blockBreaks column fuel)
    | none => return []

/-- Reads breaks and spaces, and finds the widest indentation among them. -/
def blockStart (widest : Nat) : Nat → Reader (List Char × Nat)
  | 0 => return ([], widest)
  | fuel + 1 => do
    skipSpaces
    let widest := max widest (← get).column
    match ← lineBreak? with
    | some c =>
      let (cs, widest) ← blockStart widest fuel
      return (c :: cs, widest)
    | none => return ([], widest)

/-- Whether more text of a block stands in its column. -/
def inBlock (column : Nat) : Reader Bool := do
  return (← get).column == column && (← ahead) != endMark

/-- Reads the lines of a block; `done` is what was read before and `breaks` the breaks after it. -/
def blockLines (folded : Bool) (column : Nat) (chomping : Chomping) (done breaks : List Char) :
    Nat → Reader (List Char)
  | 0 => refuse
  | fuel + 1 => do
    let isBlankChar := fun c => c == ' ' || c == '\t'
    let indented := isBlankChar (← ahead)
    let line ← takeWhile (!isNewline ·)
    let ending := (← lineBreak?).toList
    let done := done ++ breaks ++ line
    let breaks ← blockBreaks column fuel
    if ← inBlock column then
      let folds := folded && ending == ['\n'] && !indented && !isBlankChar (← ahead)
      let between := if folds then (if breaks.isEmpty then [' '] else []) else ending
      blockLines folded column chomping (done ++ between) breaks fuel
    else
      match chomping with
      | .strip => return done
      | .clip => return done ++ ending
      | .keep => return done ++ ending ++ breaks

/-- Reads a block below the indentation `indent`. -/
def block (folded : Bool) (indent : Int) : Reader String := do
  skip 1
  let (chomping, indentation) ← blockHeader
  restOfLine
  let fuel := (← get).rest.length + 1
  let least := max (indent + 1).toNat 1
  let (breaks, column) ← match indentation with
    | some n => do
      let column := least + n - 1
      pure (← blockBreaks column fuel, column)
    | none => do
      let (breaks, widest) ← blockStart 0 fuel
      pure (breaks, max least widest)
  if ← inBlock column then
    return String.ofList (← blockLines folded column chomping [] breaks fuel)
  else
    return String.ofList (if chomping = .keep then breaks else [])

/-! ### Plain texts -/

/-- A character that ends a plain text between brackets. -/
def endsFlowWord (c : Char) : Bool := [',', '?', '[', ']', '\x7b', '\x7d'].contains c

/-- Whether a colon before `rest` ends a plain text. -/
def endsKey (inFlow : Bool) (rest : List Char) : Bool :=
  let c := rest.headD endMark
  isSeparator c || (inFlow && [',', '[', ']', '\x7b', '\x7d'].contains c)

/-- The part of a plain text up to the next blank. -/
def plainWord (inFlow : Bool) : List Char → List Char
  | [] => []
  | c :: rest =>
    if isSeparator c || (c == ':' && endsKey inFlow rest) || (inFlow && endsFlowWord c) then []
    else c :: plainWord inFlow rest

/-- Reads breaks and spaces between two lines of a plain text; `none` if a mark of documents
follows. -/
def plainBreaks : Nat → Reader (Option (List Char))
  | 0 => return some []
  | fuel + 1 => do
    if ← atDocumentMark then return none
    skipSpaces
    match ← lineBreak? with
    | some c => return (← plainBreaks fuel).map (c :: ·)
    | none => return some []

/-- What stands between two words of a plain text. -/
structure PlainGap where
  /-- The text that it stands for, `none` if the plain text ends here. -/
  text : Option (List Char)
  /-- Whether it holds a line break. -/
  breaks : Bool

/-- Reads what stands between two words of a plain text. -/
def plainGap (fuel : Nat) : Reader PlainGap := do
  let spaces ← takeWhile (· == ' ')
  match ← lineBreak? with
  | some c => return ⟨(← plainBreaks fuel).map (fold c), true⟩
  | none => return ⟨if spaces.isEmpty then none else some spaces, false⟩

/-- Reads the words of a plain text; `done` is what was read before and `gap` what stands after it.
Yields the text, and whether it ends at the start of a line. -/
def plainFrom (inFlow : Bool) (indent : Int) (done gap : List Char) (breaks : Bool) :
    Nat → Reader (List Char × Bool)
  | 0 => refuse
  | fuel + 1 => do
    let word := plainWord inFlow (← get).rest
    if (← ahead) == '#' || word.isEmpty then return (done, breaks)
    skip word.length
    let done := done ++ gap ++ word
    let next ← plainGap fuel
    match next.text with
    | some gap =>
      if (← ahead) == '#' || (!inFlow && (← get).column < indent + 1) then
        return (done, next.breaks)
      plainFrom inFlow indent done gap next.breaks fuel
    | none => return (done, next.breaks)

/-- Reads a plain text below the indentation `indent`. -/
def plain (inFlow : Bool) (indent : Int) : Reader (String × Bool) := do
  let fuel := (← get).rest.length + 1
  let (text, breaks) ← plainFrom inFlow indent [] [] false fuel
  return (String.ofList text, breaks)

end Postprocessor.Yaml
