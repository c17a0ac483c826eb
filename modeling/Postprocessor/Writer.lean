import Postprocessor.Machine.Basic
import Postprocessor.Output.FileSet

/-!
# Writers

A writer drives one machine and writes the words that change to the files of a program.

* `Verb`: what a machine can be told to do.
* `Verb.words`: the words of a verb, which depend on the machine alone.
* `Writer`: a machine and the files of a program.
* `Call`: what a writer can be told to do.
* `Writer.perform`: does it.
-/

namespace Postprocessor

/-- An instruction for the machine. -/
inductive Verb where
  /-- A move at full speed. -/
  | rapid (target : Axis → Value)
  /-- A move in feed. -/
  | line (target : Axis → Value) (feed : Value)
  | set (setting : Setting)
  /-- The choice of a tool and its change. -/
  | changeTool (name : Value)

namespace Verb

/-- The settings of a verb. -/
def settings : Verb → List Setting
  | .rapid target => [.mode .motion (.int 0), .position target]
  | .line target feed => [.mode .motion (.int 1), .position target, .feed feed]
  | .set setting => [setting]
  | .changeTool name => [.tool name]

/-- The words of a verb that are written on every call. -/
def actions : Verb → List String
  | .changeTool _ => ["M6"]
  | _ => []

/-- The words of a verb. -/
def words (force : Bool) (v : Verb) : Step Machine (List String) := do
  let changed ← v.settings.mapM (Machine.apply force)
  return changed ++ v.actions

end Verb

/-- A call of a writer. -/
inductive Call where
  | verb (v : Verb) (force noFlush : Bool)
  /-- Writes a word, and ends the line if `flush` is set. -/
  | put (word : Value) (flush : Bool)
  | flush
  | flushAll
  /-- Calls a program by its name. -/
  | callSub (name : Value) (noFlush : Bool)
  /-- Calls a program outside of the files. -/
  | callExternal (name : Value) (noFlush : Bool)
  | comment (text : Value) (noFlush : Bool)
  | openSub (name : Value)
  | closeSub
  /-- Forgets what was written last on every channel of the machine. -/
  | resetMachine

/-- A machine and the files of a program. -/
structure Writer where
  machine : Machine
  files : FileSet
  deriving Inhabited

namespace Writer

/-- A writer that has written nothing. -/
def start (c : Config) : Writer := ⟨.fresh, .start c⟩

/-- A step on the machine. -/
def onMachine {α : Type} (step : Step Machine α) : Step Writer α :=
  .within machine (fun w m => { w with machine := m }) step

/-- A step on the files. -/
def onFiles {α : Type} (step : Step FileSet α) : Step Writer α :=
  .within files (fun w s => { w with files := s }) step

/-- The word that a value is: empty for whatever does not count as true, and else its text. -/
def wordOf (v : Value) : Except Failure String :=
  if v.truthy then
    match v.text? with
    | some s => .ok s
    | none => .error .notText
  else .ok ""

/-- Performs a call. -/
def perform : Call → Step Writer Unit
  | .verb v force noFlush => do
    let words ← onMachine (v.words force)
    onFiles (FileSet.emit words noFlush)
  | .put word flush => do
    let word ← Step.lift (wordOf word)
    onFiles (FileSet.emit [word] (!flush))
  | .flush => onFiles FileSet.flush
  | .flushAll => onFiles FileSet.flushAll
  | .callSub name noFlush => do
    let word ← Step.lift (wordOf name)
    onFiles (FileSet.emit [word] noFlush)
  | .callExternal name noFlush => do
    let name ← Step.lift name.written
    onFiles (FileSet.emit ["EXTCALL \"" ++ name ++ "\""] noFlush)
  | .comment text noFlush => do
    let text := (← Step.lift (wordOf text)).trimmed
    if !text.isEmpty then onFiles (FileSet.emit ["; " ++ text] noFlush)
  | .openSub name => onFiles (FileSet.openSub name)
  | .closeSub => onFiles FileSet.closeSub
  | .resetMachine => modify fun w => { w with machine := .fresh }

/-- Runs a step on a writer. -/
def run {α : Type} (w : Writer) (step : Step Writer α) : Except Failure α × Writer := step w

end Writer

end Postprocessor
