import Postprocessor.Config.Reading
import Postprocessor.Disk.Store

/-!
# Configuration files

A configuration may be kept in a Yaml file.  Reading one changes nothing on the disk, so it is a
function of the disk.

* `Config.LoadFault`: what can be wrong with a configuration file.
* `Config.loadFrom`, `Config.load`: the configuration in a file, or the preset one if no file is
  named.
-/

namespace Postprocessor.Config

/-- What can be wrong with a configuration file. -/
inductive LoadFault where
  /-- The file cannot be read. -/
  | unreadable (why : Disk.Fault)
  /-- The file describes no value. -/
  | empty (path : String)
  /-- The file describes a value other than a mapping. -/
  | notMapping (path : String)
  /-- The mapping describes no configuration. -/
  | invalid (why : Fault)
  deriving Repr

namespace LoadFault

/-- The kind under which a fault is reported. -/
def kind : LoadFault → String
  | .unreadable why => why.kind
  | .empty _ | .notMapping _ => Fault.configKind
  | .invalid why => why.kind

/-- The text that is reported. -/
def message : LoadFault → String
  | .unreadable why => why.message
  | .empty path => "Empty configuration file: " ++ path
  | .notMapping path => "Configuration root must be a mapping: " ++ path
  | .invalid why => why.message

end LoadFault

/-- The value of a configuration file, which has to be there.  The mapping of the sections and the
sections are opened, since an entry is written by itself. -/
def fileValue (p : Path) : Disk.Step Value := do
  if !(← Disk.exists? p) then throw (.missing "Configuration file" p.text)
  Disk.loadYaml 2 p

/-- The configuration that the value of a file describes. -/
def ofFileValue (p : Path) : Value → Except LoadFault Config
  | .null => .error (.empty p.text)
  | .mapping data => (ofValue (.mapping data)).mapError .invalid
  | _ => .error (.notMapping p.text)

/-- The configuration in the file at a path. -/
def loadFrom (d : Disk) (p : Path) : Except LoadFault Config :=
  ((d.run (fileValue p)).1.mapError .unreadable).bind (ofFileValue p)

/-- The configuration in the file that a path names, or the preset one. -/
def load (d : Disk) : Option String → Except LoadFault Config
  | none => .ok {}
  | some path => loadFrom d (Path.ofText path)

end Postprocessor.Config
