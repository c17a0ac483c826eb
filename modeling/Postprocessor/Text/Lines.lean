import Postprocessor.Text.Blank

/-!
# Lines

* `lines`: the lines of a text, without their breaks.  A break ends a line, so a text that ends
  in a break has no empty last line.
* `unifyBreaks`: the reading of a text file, in which a carriage return, alone or before a line
  feed, counts as a line feed.
-/

namespace Postprocessor.Text

/-- The lines of `cs`, where `done` holds the lines before and `line` the characters already read
of the first line, both in reverse order. -/
def linesFrom (done : List (List Char)) (line : List Char) : List Char → List (List Char)
  | [] => (if line.isEmpty then done else line.reverse :: done).reverse
  | '\r' :: '\n' :: rest => linesFrom (line.reverse :: done) [] rest
  | c :: rest =>
    if isBreak c then linesFrom (line.reverse :: done) [] rest
    else linesFrom done (c :: line) rest

/-- The lines of a text. -/
def lines (cs : List Char) : List (List Char) := linesFrom [] [] cs

/-- `cs` with `\r\n` and `\r` read as `\n`, put in front of `done`, which is in reverse order. -/
def unifyBreaksFrom (done : List Char) : List Char → List Char
  | [] => done.reverse
  | '\r' :: '\n' :: rest => unifyBreaksFrom ('\n' :: done) rest
  | '\r' :: rest => unifyBreaksFrom ('\n' :: done) rest
  | c :: rest => unifyBreaksFrom (c :: done) rest

/-- The text with every line break of a text file written as a line feed. -/
def unifyBreaks (cs : List Char) : List Char := unifyBreaksFrom [] cs

end Postprocessor.Text
