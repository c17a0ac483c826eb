import Postprocessor.Command.Run
import Std.Time.DateTime.Timestamp

/-!
# The program

Everything that the program does is a function of its surroundings (`Command.run`).  This module
fetches them before the run and makes what the run has changed real after it.

* `known`: the paths that a run may use.
* `fetch`: what stands on the disk on the way to these paths.
* `store`: makes the changes of a disk real.
-/

namespace Postprocessor.Main

/-- What is printed for a command line that asks for help or cannot be understood. -/
def usage : String :=
  "usage: postprocess [-h] [--config CONFIG] [--output-dir OUTPUT_DIR]\n"
    ++ "                   [--dump-events DUMP_EVENTS] [--dry-run] [--log-level LEVEL]\n"
    ++ "                   [--log-file LOG_FILE] [--log-json] trace"

/-! ### Fetching the disk -/

/-- The number of the refusal to read a folder as a file. -/
def folderRefusal : UInt32 := 21

/-- What stands at a path. -/
def look (path : String) : IO (Option (Option ByteArray)) := do
  try
    return some (some (← IO.FS.readBinFile path))
  catch
    | .inappropriateType _ code _ => return if code == folderRefusal then some none else none
    | _ => return none

/-- Adds what stands at a path to a disk, with the folders on the way. -/
def fetchPath (d : Disk) (p : Path) : IO Disk := do
  let mut d := d
  for n in [1 : p.parts.length + 1] do
    let here : Path := { p with parts := p.parts.take n }
    match d.find here with
    | .error _ => return d
    | .ok place =>
      if (d.item? place).isNone then
        match ← look here.text with
        | none => return d
        | some none => d := d.put place .folder
        | some (some bytes) => d := (d.run (Disk.writeBytes here bytes.toList)).2
  return d

/-- A path and the path beside it at which a file is written first. -/
def withBeside (p : Path) : List Path := [p, p.withName (p.name ++ ".tmp")]

/-- The paths that a run with a given configuration may use. -/
def known (a : Command.Arguments) (c : Config) : List Path :=
  let folder := Path.ofText (a.outputDir.text?.getD ".")
  [Path.ofText a.trace, folder]
    ++ (a.logFile.toList.map Path.ofText)
    ++ (a.dumpEvents.toList.map Path.ofText).flatMap withBeside
    ++ withBeside (Command.pathOf c folder c.files.main)

/-- The disk as far as a run may use it. -/
def fetch (a : Command.Arguments) : IO Disk := do
  let file := (a.config.bind Command.Given.text?).toList.map Path.ofText
  let d ← file.foldlM fetchPath Disk.empty
  match Command.configFor d a with
  | .error _ => return d
  | .ok c => (known a c).foldlM fetchPath d

/-! ### Storing the disk -/

/-- The path of a place. -/
def pathText (place : Place) : String :=
  match place with
  | "/" :: rest => "/" ++ "/".intercalate rest
  | place => "/".intercalate place

/-- Whether a file has other bytes than before. -/
def isChanged (before : Disk) (place : Place) (bytes : List UInt8) : Bool :=
  before.bytes? place != some bytes

/-- Makes the changes from one disk to another real. -/
def store (before after : Disk) : IO Unit := do
  for (place, i) in after.items do
    match i with
    | .folder => if (before.item? place).isNone then IO.FS.createDirAll (pathText place)
    | .file _ bytes =>
      if isChanged before place bytes then
        IO.FS.writeBinFile (pathText place) (ByteArray.mk bytes.toArray)
  for (place, _) in before.items do
    if (after.item? place).isNone then IO.FS.removeFile (pathText place)

/-- The moment at which the program runs. -/
def now : IO Log.Moment := do
  let t ← Std.Time.Timestamp.now
  return ⟨t.toNanosecondsSinceUnixEpoch.toInt.fdiv 1000⟩

/-- Runs the program. -/
def runFor (a : Command.Arguments) : IO UInt32 := do
  let before ← fetch a
  let terminal ← (← IO.getStderr).isTty
  let (r, s) := (Session.start before terminal (← now)).run (Command.run a)
  IO.eprint s.console
  IO.print s.output
  store before s.disk
  match r with
  | .ok code => return code.toUInt32
  | .error f =>
    IO.eprintln (f.kind ++ ": " ++ f.message)
    return 1

end Postprocessor.Main

/-- The program for the arguments of a command line. -/
def main (args : List String) : IO UInt32 := do
  match Postprocessor.Command.Arguments.ofList args with
  | .ok a => Postprocessor.Main.runFor a
  | .error .help =>
    IO.println Postprocessor.Main.usage
    return 0
  | .error .usage =>
    IO.eprintln Postprocessor.Main.usage
    return 2
