import Postprocessor.Disk.Store
import Postprocessor.Log.Basic

/-!
# Sessions

A session is everything that the program has around it: the disk, the log, what was written to the
two outputs, and the clock.

* `Session`: the state of a session.
* `Session.Step`: steps that may fail; what was done before a failure stays done.
* `Session.onDisk`: a step on the disk.
* `Session.print`, `Session.complain`, `Session.report`: write to the outputs and to the log.
* `Session.setUp`: sets logging up.
-/

namespace Postprocessor

/-- The state of a session. -/
structure Session where
  disk : Disk
  log : Log
  /-- What was printed. -/
  output : String
  /-- What was written to the console. -/
  console : String
  /-- Whether the console is a terminal. -/
  terminal : Bool
  /-- The clock. -/
  time : Log.Moment

namespace Session

/-- A session on a disk. -/
def start (disk : Disk) (terminal : Bool) (time : Log.Moment) : Session :=
  ⟨disk, .start, "", "", terminal, time⟩

/-- A step of a session. -/
abbrev Step (ε α : Type) : Type := ExceptT ε (StateM Session) α

variable {ε α : Type}

/-- A step on the disk. -/
def onDisk (step : Disk.Step α) : Step Disk.Fault α :=
  fun s =>
    let (r, disk) := step s.disk
    (r, { s with disk })

/-- A step with its faults in another form. -/
def adapt {δ : Type} (f : δ → ε) (step : Step δ α) : Step ε α :=
  fun s =>
    let (r, s') := step s
    (r.mapError f, s')

/-- Runs a step in a session. -/
def run (s : Session) (step : Step ε α) : Except ε α × Session := step s

/-! ### Outputs -/

/-- Prints a line. -/
def print (line : String) : Step ε Unit :=
  modify fun s => { s with output := s.output ++ line ++ "\n" }

/-- Writes a line to the console. -/
def complain (line : String) : Step ε Unit :=
  modify fun s => { s with console := s.console ++ line ++ "\n" }

/-- The session after a text was written to a target. -/
def deliver (s : Session) (d : Log.Target × String) : Session :=
  match d.1 with
  | .console => { s with console := s.console ++ d.2 }
  | .file id => { s with disk := s.disk.append id (Text.Utf8.encode d.2.toList) }

/-- Writes a record to the log. -/
def report (r : Log.Record) : Step ε Unit :=
  modify fun s => (s.log.deliveries s.time r).foldl deliver s

/-- Replaces the state of logging. -/
def setLog (f : Log → Log) : Step ε Unit := modify fun s => { s with log := f s.log }

/-! ### Setting logging up -/

/-- How logging is to be set up. -/
structure Setup where
  /-- The name of the least level. -/
  level : String
  /-- The file to which records are added, besides the console; none if it is empty. -/
  file : Option String
  json : Bool
  /-- Fields that are added to the context. -/
  context : Params

/-- Why logging cannot be set up. -/
inductive SetupFault where
  | level (why : Log.LevelFault)
  | file (why : Disk.Fault)
  deriving Repr

namespace SetupFault

/-- The kind under which a fault is reported. -/
def kind : SetupFault → String
  | .level why => why.kind
  | .file why => why.kind

/-- The text that is reported. -/
def message : SetupFault → String
  | .level why => why.message
  | .file why => why.message

end SetupFault

/-- Opens a file to which records are added, with the folders above it. -/
def openFile (path : String) : Disk.Step Nat := do
  let p := Path.ofText path
  Disk.ensureFolder p.parent
  Disk.openLog p

/-- The handlers that a setup asks for: the console, and the file if there is one. -/
def handlersFor (s : Setup) : Step SetupFault (List Log.Handler) := do
  let console : Log.Handler := ⟨.console, ⟨s.json, (← get).terminal⟩⟩
  match s.file with
  | none | some "" => return [console]
  | some path =>
    let id ← adapt .file (onDisk (openFile path))
    return [console, ⟨.file id, ⟨s.json, false⟩⟩]

/-- Sets logging up.  The handlers of an earlier setup go first, then the threshold changes, and the
new handlers come last. -/
def setUp (s : Setup) : Step SetupFault Unit := do
  setLog fun l => { l with handlers := [] }
  match Log.thresholdOf s.level with
  | .error why => throw (.level why)
  | .ok threshold =>
    setLog fun l => { l with threshold }
    let handlers ← handlersFor s
    setLog fun l => { l with handlers }
    setLog fun l => l.push s.context

end Session

end Postprocessor
