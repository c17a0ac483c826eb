import Postprocessor.Calendar
import Postprocessor.Failure

/-!
# Reading a Yaml text character by character

* `Cursor`: a place in a text, by its line and its column.
* `Reader`: a reader of a text, which may fail.
* `ahead`, `skip`, `takeWhile`: looks at the text, and moves on.
* `lineBreak`, `restOfLine`: the end of a line.
-/

namespace Postprocessor.Yaml

/-! ### Faults -/

/-- What can be wrong with a text. -/
inductive Fault where
  /-- The text is not well formed. -/
  | malformed
  /-- Collections are nested too deep. -/
  | tooDeep
  /-- A code that is no code point. -/
  | badCodePoint (code : Nat)
  /-- A text that is tagged as a truth value and is none, as messages show it. -/
  | badSwitch (shown : String)
  /-- A text that is tagged as a number and is none. -/
  | badNumber (why : String)
  /-- An empty text that is tagged as a number. -/
  | emptyNumber
  /-- A whole number beyond the greatest number with a fraction. -/
  | tooLarge
  /-- A date or a time that no calendar has. -/
  | badTime (why : CalendarFault)
  /-- A text that is tagged as a timestamp and is none. -/
  | notTime
  /-- A mapping that is tagged as a timestamp. -/
  | mappingAsTime
  deriving DecidableEq, Repr, Inhabited

namespace Fault

/-- The kind under which a fault is reported. -/
def kind : Fault → String
  | .malformed => "YAMLError"
  | .tooDeep => "RecursionError"
  | .badSwitch _ => "KeyError"
  | .badNumber _ => "ValueError"
  | .emptyNumber => "IndexError"
  | .badCodePoint code => if code < 2 ^ 31 then "ValueError" else "OverflowError"
  | .tooLarge => "OverflowError"
  | .badTime _ => "ValueError"
  | .notTime => "AttributeError"
  | .mappingAsTime => "TypeError"

/-- The text that is reported. -/
def message : Fault → String
  | .malformed => "malformed text"
  | .tooDeep => "maximum recursion depth exceeded"
  | .badCodePoint code =>
    if code < 2 ^ 31 then "chr() arg not in range(0x110000)"
    else "Python int too large to convert to C int"
  | .badSwitch shown => shown
  | .badNumber why => why
  | .emptyNumber => "string index out of range"
  | .tooLarge => "int too large to convert to float"
  | .badTime why => why.message
  | .notTime => "'NoneType' object has no attribute 'groupdict'"
  | .mappingAsTime => "expected string or bytes-like object, got 'list'"

end Fault

/-! ### Characters -/

/-- A line break. -/
def isNewline (c : Char) : Bool := c == '\n' || c == '\x85' || c == '\u2028' || c == '\u2029'

/-- The end of the text, which reads as a null character. -/
abbrev endMark : Char := '\x00'

/-- A line break or the end of the text. -/
def endsLine (c : Char) : Bool := c == endMark || isNewline c

/-- What ends a word other than a tab. -/
def isGap (c : Char) : Bool := c == ' ' || endsLine c

/-- What ends a word. -/
def isSeparator (c : Char) : Bool := c == '\t' || isGap c

/-- A letter or a digit of ASCII, a hyphen or an underscore. -/
def isNameChar (c : Char) : Bool := c.isAlphanum || c == '-' || c == '_'

/-- A character that a text may hold. -/
def isAllowed (c : Char) : Bool :=
  let n := c.toNat
  n == 0x9 || n == 0xA || n == 0xD || (0x20 ≤ n && n ≤ 0x7E) || n == 0x85
    || (0xA0 ≤ n && n ≤ 0xFFFD) || 0x10000 ≤ n

/-! ### Cursors -/

/-- A place in a text. -/
structure Cursor where
  /-- The text from that place on. -/
  rest : List Char
  /-- The number of characters before it. -/
  index : Nat
  line : Nat
  column : Nat
  deriving Repr, Inhabited

namespace Cursor

/-- The start of a text. -/
def start (text : List Char) : Cursor := ⟨text, 0, 0, 0⟩

/-- The place after the next character.  A byte order mark takes no column. -/
def next (c : Cursor) : Cursor :=
  match c.rest with
  | [] => c
  | x :: rest =>
    if isNewline x then ⟨rest, c.index + 1, c.line + 1, 0⟩
    else if x == '\uFEFF' then ⟨rest, c.index + 1, c.line, c.column⟩
    else ⟨rest, c.index + 1, c.line, c.column + 1⟩

/-- The place after some more characters. -/
def forward : Nat → Cursor → Cursor
  | 0, c => c
  | n + 1, c => forward n c.next

end Cursor

/-! ### Readers -/

/-- A reader of a text. -/
abbrev Reader (α : Type) : Type := StateT Cursor (Except Fault) α

/-- Refuses the text. -/
def refuse {α : Type} : Reader α := throw .malformed

/-- Refuses the text unless a condition holds. -/
def require (condition : Bool) : Reader Unit := if condition then pure () else refuse

/-- The character `n` places ahead. -/
def lookahead (n : Nat) : Reader Char := return (← get).rest.getD n endMark

/-- The next character. -/
def ahead : Reader Char := lookahead 0

/-- Passes over characters. -/
def skip (n : Nat) : Reader Unit := modify (Cursor.forward n)

/-- Reads the characters of a class that stand next. -/
def takeWhile (p : Char → Bool) : Reader (List Char) := do
  let run := (← get).rest.takeWhile p
  skip run.length
  return run

/-- Passes over spaces. -/
def skipSpaces : Reader Unit := do
  let _ ← takeWhile (· == ' ')

/-- Reads a line break, if one is next. -/
def lineBreak? : Reader (Option Char) := do
  let c ← ahead
  if !isNewline c then return none
  skip 1
  return some (if c == '\x85' then '\n' else c)

/-- Passes over a comment, if one is next. -/
def skipComment : Reader Unit := do
  if (← ahead) == '#' then
    let _ ← takeWhile (!isNewline ·)

/-- Passes over the rest of a line, which holds spaces and a comment at most. -/
def restOfLine : Reader Unit := do
  skipSpaces
  skipComment
  require (endsLine (← ahead))
  let _ ← lineBreak?

/-- Whether a line of three characters that separates documents starts here. -/
def atDocumentMark : Reader Bool := do
  let c ← get
  let mark := c.rest.take 3
  return (mark == ['-', '-', '-'] || mark == ['.', '.', '.'])
    && isSeparator (c.rest.getD 3 endMark)

end Postprocessor.Yaml
