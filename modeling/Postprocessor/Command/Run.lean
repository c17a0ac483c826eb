import Postprocessor.Command.Arguments
import Postprocessor.Config.File
import Postprocessor.Program.PostProcessing
import Postprocessor.Session

/-!
# Runs of the program

A run reads a configuration, sets logging up, reads a trace, post-processes it and writes the
files that come out of it, or prints them.

* `Command.Fault`: why a trace is not post-processed.
* `Command.produce`: the files for a trace.
* `Command.emit`: prints the files or writes them.
* `Command.run`: a run for given arguments; its result is the code with which the program ends.
-/

namespace Postprocessor.Command

/-- Why a trace is not post-processed. -/
inductive Fault where
  | disk (why : Disk.Fault)
  | program (why : Failure)
  deriving Repr

namespace Fault

/-- The kind under which a fault is reported. -/
def kind : Fault → String
  | .disk why => why.kind
  | .program why => why.kind

/-- The text that is reported. -/
def message : Fault → String
  | .disk why => why.message
  | .program why => why.message

end Fault

variable {ε : Type}

/-! ### Reports -/

/-- Logs a notice. -/
def notify (n : Notice) : Session.Step ε Unit :=
  Session.report { source := n.source.name, level := n.level.weight, template := n.message }

/-- Logs what the run itself has done. -/
def inform (message : String) : Session.Step ε Unit := notify ⟨.info, .command, message⟩

/-- A step on the disk. -/
def onDisk {α : Type} (step : Disk.Step α) : Session.Step Fault α :=
  Session.adapt .disk (Session.onDisk step)

/-- The path that is given for an option.  No value counts as an empty list there. -/
def pathGiven : Given → Except Disk.Fault Path
  | .text value => .ok (Path.ofText value)
  | .nothing => .error (.notPath "list")

/-! ### The parts of a run -/

/-- The records of the trace. -/
def readRecords (a : Arguments) : Session.Step Fault (List Trace.Record) := do
  let p := Path.ofText a.trace
  let text ← onDisk (Disk.readText p)
  let records := (Trace.records (String.ofList text)).toList
  notify (Trace.notice records)
  inform s!"Parsed {records.length} events from {p.text}"
  return records

/-- Writes the dump of the events, if there is to be one. -/
def dump (a : Arguments) (records : List Trace.Record) : Session.Step Fault Unit := do
  match a.dumpEvents with
  | none => pure ()
  | some path =>
    onDisk (Disk.storeJson (Path.ofText path) (.list (records.map fun r => .ofFields r.fields)))
    inform ("Event dump written to " ++ path)

/-- The files for records. -/
def produceFrom (c : Config) (records : List Trace.Record) :
    Session.Step Fault (List (Value × String)) := do
  let (r, program) := postProcess c records
  program.notices.forM notify
  match r with
  | .ok files => return files
  | .error why => throw (.program why)

/-- The files for the trace. -/
def produce (a : Arguments) (c : Config) : Session.Step Fault (List (Value × String)) := do
  let records ← readRecords a
  dump a records
  produceFrom c records

/-- The path of a file below the folder for the files. -/
def pathOf (c : Config) (folder : Path) (name : String) : Path :=
  folder.join (Path.ofText (name ++ c.extensionFor name))

/-- Writes a file. -/
def writeFile (c : Config) (folder : Path) (file : Value × String) : Session.Step Fault Unit := do
  let p := pathOf c folder (Program.nameShown file.1)
  onDisk (Disk.storeText p (file.2 ++ "\n"))
  inform ("Wrote " ++ p.text)

/-- Prints a file. -/
def printFile (file : Value × String) : Session.Step Fault Unit := do
  Session.print ("--- " ++ Program.nameShown file.1 ++ " ---")
  Session.print file.2

/-- Prints files, or writes them. -/
def emit (a : Arguments) (c : Config) (files : List (Value × String)) :
    Session.Step Fault Unit := do
  if a.dryRun then files.forM printFile
  else
    let folder ← onDisk (Disk.lift (pathGiven a.outputDir))
    onDisk (Disk.ensureFolder folder)
    files.forM (writeFile c folder)

/-- Post-processes the trace. -/
def post (a : Arguments) (c : Config) : Session.Step Fault Unit := do
  emit a c (← produce a c)

/-! ### Runs -/

/-- How logging is to be set up: what the command line says goes before the configuration. -/
def setupFor (a : Arguments) (c : Config) : Session.Setup where
  level := (a.logLevel.getD c.logging.level).name
  file := a.logFile
  json := a.logJson || c.logging.json
  context := [("app", .text "run_post")]

/-- The code of a run that went well. -/
abbrev wentWell : Nat := 0

/-- The code of a run that failed. -/
abbrev failed : Nat := 1

/-- Logs that the trace was not post-processed. -/
def reportFault (e : Fault) : Session.Step ε Unit :=
  Session.report
    { source := Source.command.name
      level := Level.error.weight
      template := "Post-processing failed"
      failure := some (e.kind, e.message) }

/-- Post-processes the trace and reports if that fails. -/
def attempt (a : Arguments) (c : Config) : Session.Step ε Nat :=
  fun s =>
    match post a c s with
    | (.ok (), s') => (.ok wentWell, s')
    | (.error e, s') => (reportFault e *> pure failed : Session.Step ε Nat) s'

/-- A run with a given configuration. -/
def runWith (a : Arguments) (c : Config) : Session.Step Session.SetupFault Nat := do
  Session.setUp (setupFor a c)
  Session.setLog fun l => l.push [("trace", .text (Path.ofText a.trace).name)]
  let code ← attempt a c
  Session.setLog fun l => l.pop (some ["trace"])
  return code

/-- The configuration for a run. -/
def configFor (d : Disk) (a : Arguments) : Except Config.LoadFault Config :=
  match a.config with
  | none => .ok {}
  | some given => ((pathGiven given).mapError .unreadable).bind (Config.loadFrom d)

/-- A run for given arguments. -/
def run (a : Arguments) : Session.Step Session.SetupFault Nat := do
  match configFor (← get).disk a with
  | .ok c => runWith a c
  | .error e =>
    Session.complain ("Error loading config: " ++ e.message)
    return failed

end Postprocessor.Command
