import Postprocessor.Config.Basic
import Postprocessor.Fields
import Postprocessor.Text.Blank

/-!
# Lines of a program

* `Line`: the words of a line, and its number if it has one.
* `Line.text`: the line as it stands in the file.
* `ProgramFile`: the lines of a file, and the words of the line that is being written.
* `ProgramFile.put`, `ProgramFile.flush`: adds a word to that line; ends it.
* `ProgramFile.words`: all words of a file in order; `words_put` and `words_flush` say that a put
  adds one word at the end and that a flush changes none.
-/

namespace Postprocessor

/-- A line of a program. -/
structure Line where
  number : Option Int
  words : List String
  deriving DecidableEq, Repr, Inhabited

namespace Line

/-- The words with single spaces between them. -/
def body (l : Line) : String := (" ".intercalate l.words).trimmed

/-- The number of the line as a word. -/
def label (l : Line) : String :=
  match l.number with
  | some n => "N" ++ String.ofList (intText n) ++ " "
  | none => ""

/-- The line as it stands in the file. -/
def text (l : Line) : String := l.label ++ l.body

end Line

/-- A file of a program. -/
structure ProgramFile where
  name : Value
  lines : Array Line
  /-- The words of the line that is being written. -/
  pending : List String
  /-- The number of the line that is being written. -/
  nextNumber : Int
  deriving Repr, Inhabited

namespace ProgramFile

/-- A file without lines. -/
def empty (name : Value) (start : Int) : ProgramFile := ⟨name, #[], [], start⟩

/-- Adds a word, without the blanks around it, to the line that is being written.  A blank word
adds nothing. -/
def put (f : ProgramFile) (word : String) : ProgramFile :=
  let word := word.trimmed
  if word.isEmpty then f else { f with pending := f.pending ++ [word] }

/-- Ends the line that is being written, if it has any words. -/
def flush (numbering : Numbering) (f : ProgramFile) : Except Failure ProgramFile :=
  if f.pending.isEmpty then .ok f
  else
    let next : Line → ProgramFile := fun line =>
      { f with
        lines := f.lines.push line
        pending := []
        nextNumber := f.nextNumber + numbering.increment }
    if numbering.enabled then
      (Value.intWritten f.nextNumber).map fun _ => next ⟨some f.nextNumber, f.pending⟩
    else .ok (next ⟨none, f.pending⟩)

/-- The lines of the file, one below the other. -/
def text (f : ProgramFile) : String := "\n".intercalate (f.lines.toList.map Line.text)

/-- The words of the file: those of its lines and those of the line that is being written. -/
def words (f : ProgramFile) : List String := f.lines.toList.flatMap Line.words ++ f.pending

theorem words_put (f : ProgramFile) (word : String) :
    (f.put word).words
      = f.words ++ (if word.trimmed.isEmpty then [] else [word.trimmed]) := by
  simp only [put]
  split <;> simp [words]

theorem words_flush {numbering : Numbering} {f g : ProgramFile}
    (h : f.flush numbering = .ok g) : g.words = f.words := by
  simp only [flush] at h
  split at h
  · cases h
    rfl
  · split at h
    · cases hw : Value.intWritten f.nextNumber with
      | error e => simp [hw, Except.map] at h
      | ok s =>
        simp only [hw, Except.map, Except.ok.injEq] at h
        simp [← h, words]
    · simp only [Except.ok.injEq] at h
      simp [← h, words]

end ProgramFile

end Postprocessor
