import Postprocessor.Text.Lines
import Postprocessor.Trace.Assignment
import Postprocessor.Trace.Name

/-!
# Records

A trace is a sequence of blocks.  A block opens with a marker line, which numbers and names an
event, and reaches up to the next marker line; its lines give the parameters of the event.

* `Record`: an event with its place and its parameters.
* `markerName?`: the identifier of the event that a line opens.
* `Reading`: the records read so far and the open block.
* `records`: the records of a trace; `records_ofList`: those of a text given by its characters.
* `Record.fields`: a record as one flat table.
-/

namespace Postprocessor.Trace
open Text

/-- An event of a trace. -/
structure Record where
  name : String
  index : Nat
  params : Params
  deriving Repr, Inhabited

/-- The identifier on a marker line: after any blanks, digits between parentheses, an at sign and a
run of word characters. -/
def markerName? (line : List Char) : Option (List Char) :=
  match trimLeft line with
  | '(' :: rest =>
    match rest.takeWhile isDigit, rest.dropWhile isDigit with
    | _ :: _, ')' :: '@' :: rest' =>
      let name := rest'.takeWhile isWord
      if name.isEmpty then none else some name
    | _, _ => none
  | _ => none

/-- The records of the blocks read so far, and the name and the parameters of the open block. -/
structure Reading where
  done : Array Record
  opened : Option (String × Params)

namespace Reading

/-- Nothing read. -/
def start : Reading := ⟨#[], none⟩

/-- Closes the open block. -/
def close (r : Reading) : Reading :=
  match r.opened with
  | some (name, params) => ⟨r.done.push ⟨name, r.done.size, params⟩, none⟩
  | none => r

/-- Reads a line. -/
def step (r : Reading) (line : List Char) : Reading :=
  match markerName? line with
  | some identifier =>
    let r := r.close
    ⟨r.done, some (String.ofList (eventName identifier), assign [] line)⟩
  | none => ⟨r.done, r.opened.map fun (name, params) => (name, assign params line)⟩

end Reading

/-- The records of a trace. -/
def records (text : String) : Array Record :=
  ((lines text.toList).foldl Reading.step .start).close.done

/-- The records of a text that is given by its characters. -/
theorem records_ofList (cs : List Char) :
    records (String.ofList cs) = ((lines cs).foldl Reading.step .start).close.done := by
  rw [records, String.toList_ofList]

/-- The record as a table: its name and its place under keys of their own, then its parameters. -/
def Record.fields (r : Record) : List (String × Value) :=
  Fields.putAll [("_eventName", .text r.name), ("_index", .int r.index)] r.params

end Postprocessor.Trace
