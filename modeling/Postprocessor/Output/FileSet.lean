import Postprocessor.Output.Line
import Postprocessor.Step

/-!
# The files of a program

Output goes to the main file, or to a subprogram while one is open.  Subprograms do not nest, and
every file counts its own lines.

* `FileSet`: the main file, the subprograms that are closed and the one that is open.
* `FileSet.current`: the file that is being written.
* `FileSet.put`, `flush`, `flushAll`: adds a word; ends the line of the current file, or of every
  file.
* `FileSet.openSub`, `closeSub`: opens a subprogram; ends it and returns to the main file.
-/

namespace Postprocessor

/-- The files of a program. -/
structure FileSet where
  numbering : Numbering
  /-- The word that ends a subprogram. -/
  endWord : String
  main : ProgramFile
  /-- The subprograms that are closed, in the order in which they were opened. -/
  closed : List ProgramFile
  /-- The subprogram that is open. -/
  opened : Option ProgramFile
  deriving Repr, Inhabited

namespace FileSet

/-- The files of a program before anything is written. -/
def start (c : Config) : FileSet :=
  ⟨c.numbering, c.files.endWord, .empty (.text c.files.main) c.numbering.start, [], none⟩

/-- All files in the order in which they were opened. -/
def files (s : FileSet) : List ProgramFile := s.main :: s.closed ++ s.opened.toList

/-- The file that is being written. -/
def current (s : FileSet) : ProgramFile := s.opened.getD s.main

/-- The files with another one in the place of the current one. -/
def setCurrent (s : FileSet) (f : ProgramFile) : FileSet :=
  match s.opened with
  | some _ => { s with opened := some f }
  | none => { s with main := f }

theorem current_setCurrent (s : FileSet) (f : ProgramFile) : (s.setCurrent f).current = f := by
  cases h : s.opened <;> simp [setCurrent, current, h]

/-- Adds a word to the current file. -/
def put (s : FileSet) (word : String) : FileSet := s.setCurrent (s.current.put word)

/-- Ends the line of the current file. -/
def flush : Step FileSet Unit :=
  .update fun s => (s.current.flush s.numbering).map s.setCurrent

/-- Adds words to the current file, and ends its line unless it is to be kept open. -/
def emit (words : List String) (noFlush : Bool) : Step FileSet Unit := do
  modify fun s => words.foldl put s
  if !noFlush then flush

/-- Ends the lines of several files, up to the first one where that fails. -/
def flushEach (numbering : Numbering) : List ProgramFile → Except Failure Unit × List ProgramFile
  | [] => (.ok (), [])
  | f :: fs =>
    match f.flush numbering with
    | .error e => (.error e, f :: fs)
    | .ok f' =>
      let (r, fs') := flushEach numbering fs
      (r, f' :: fs')

/-- Ends the line of every file, in the order in which they were opened. -/
def flushAll : Step FileSet Unit := do
  .update fun s => (s.main.flush s.numbering).map fun f => { s with main := f }
  fun s =>
    let (r, closed) := flushEach s.numbering s.closed
    (r, { s with closed := closed })
  .update fun s =>
    match s.opened with
    | some f => (f.flush s.numbering).map fun f => { s with opened := some f }
    | none => .ok s

/-- Whether a file has a name. -/
def hasName (s : FileSet) (name : Value) : Bool := s.files.any fun f => name.finds f.name

/-- Opens a subprogram and directs output to it. -/
def openSub (name : Value) : Step FileSet Unit :=
  .update fun s =>
    match s.opened with
    | some f => do
      let name ← name.written
      let current ← f.name.written
      .error (.nestedSubprogram name current)
    | none =>
      if !name.isComparable then .error .notComparable
      else if s.hasName name then name.written.bind fun name => .error (.fileExists name)
      else .ok { s with opened := some (.empty name s.numbering.start) }

/-- Ends the line and writes the end word of the open subprogram, and returns to the main file. -/
def closeSub : Step FileSet Unit := do
  let s ← get
  match s.opened with
  | none => throw (.noSubprogram (s.main.name.written.toOption.getD ""))
  | some _ =>
    flush
    emit [s.endWord] false
    modify fun s => { s with closed := s.closed ++ s.opened.toList, opened := none }

/-- The name and the text of every file. -/
def texts (s : FileSet) : List (Value × String) := s.files.map fun f => (f.name, f.text)

end FileSet

end Postprocessor
