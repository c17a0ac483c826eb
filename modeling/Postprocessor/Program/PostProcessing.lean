import Postprocessor.Program.Standard

/-!
# Post-processing a trace

* `postProcess`: the files that the standard handlers write for the records of a trace.
* `Program.notices`, `warnings`: what was reported meanwhile.
-/

namespace Postprocessor

namespace Program

/-- What a program has reported so far. -/
def notices {ι : Type} (p : Program ι) : List Notice :=
  p.journal.toList.filterMap fun
    | .notified n => some n
    | _ => none

/-- The texts of the warnings that a program has reported so far. -/
def warnings {ι : Type} (p : Program ι) : List String :=
  (p.notices.filter (·.level = .warning)).map Notice.message

/-- Loads records into a program with the standard handlers and dispatches them. -/
def postProcessing (records : List Trace.Record) :
    Step (Program Handler) (List (Value × String)) := do
  addStandard id
  load records
  process Handler.listener
  generateFiles

end Program

/-- The files that the standard handlers write for the records of a trace, and the program after
that. -/
def postProcess (c : Config) (records : List Trace.Record) :
    Except Failure (List (Value × String)) × Program Handler :=
  (Program.start (Writer.start c)).run (Program.postProcessing records)

end Postprocessor
