import Postprocessor.Failure
import Postprocessor.Text.Encoding
import Postprocessor.Yaml.Cursor

/-!
# What can go wrong with files

* `Errno`: why the disk refuses something.
* `Disk.Fault`: the causes of failure.
* `Disk.Fault.kind`, `Disk.Fault.message`: the two texts by which a fault is reported.
-/

namespace Postprocessor

/-- Why the disk refuses something. -/
inductive Errno where
  | noEntry | busy | exists | notFolder | isFolder | nameTooLong
  deriving DecidableEq, Repr, Inhabited

namespace Errno

/-- The number of a refusal. -/
def number : Errno → Nat
  | .noEntry => 2
  | .busy => 16
  | .exists => 17
  | .notFolder => 20
  | .isFolder => 21
  | .nameTooLong => 36

/-- The text of a refusal. -/
def label : Errno → String
  | .noEntry => "No such file or directory"
  | .busy => "Device or resource busy"
  | .exists => "File exists"
  | .notFolder => "Not a directory"
  | .isFolder => "Is a directory"
  | .nameTooLong => "File name too long"

/-- The kind under which a refusal is reported. -/
def kind : Errno → String
  | .noEntry => "FileNotFoundError"
  | .exists => "FileExistsError"
  | .notFolder => "NotADirectoryError"
  | .isFolder => "IsADirectoryError"
  | .busy | .nameTooLong => "OSError"

end Errno

namespace Disk

/-- A cause of failure. -/
inductive Fault where
  /-- The disk refuses to use a path, or to move something to another path. -/
  | refused (why : Errno) (path : String) (target : Option String)
  /-- A path with a null character. -/
  | nullCharacter
  /-- Something other than a text where a path is needed, by the name of its type. -/
  | notPath (typeName : String)
  /-- A path without a last name. -/
  | unnamed (path : String)
  /-- A file could not be written as a whole. -/
  | notWritten (path : String) (why : Fault)
  /-- A file that has to be there is not. -/
  | missing (what path : String)
  | undecodable (why : Text.DecodeFault)
  /-- A text that cannot be written in the code of a given name. -/
  | unencodable (name : String) (why : Text.EncodeFault)
  /-- A name that names no code of characters. -/
  | badEncoding (name : String) (why : Text.NameFault)
  | yaml (why : Yaml.Fault)
  /-- A value that cannot be written. -/
  | unwritable (why : Failure)
  deriving Repr

namespace Fault

/-- The kind under which a fault is reported. -/
def kind : Fault → String
  | .refused why _ _ => why.kind
  | .nullCharacter | .unnamed _ => "ValueError"
  | .notPath _ => "TypeError"
  | .notWritten .. => "RuntimeError"
  | .missing .. => "FileNotFoundError"
  | .undecodable _ => "UnicodeDecodeError"
  | .unencodable _ why => why.kind
  | .badEncoding _ why => why.kind
  | .yaml why => why.kind
  | .unwritable why => why.kind

/-- The text that is reported. -/
def message : Fault → String
  | .refused why path target =>
    s!"[Errno {why.number}] {why.label}: {path.quotedForm}"
      ++ match target with
        | some target => " -> " ++ target.quotedForm
        | none => ""
  | .nullCharacter => "embedded null byte"
  | .notPath typeName => "expected str, bytes or os.PathLike object, not " ++ typeName
  | .unnamed path => s!"PosixPath({path.quotedForm}) has an empty name"
  | .notWritten path why => s!"Failed to write {path} atomically: {why.message}"
  | .missing what path => s!"{what} not found: {path}"
  | .undecodable why => why.message
  | .unencodable name why => why.message name
  | .badEncoding name why => why.message name
  | .yaml why => why.message
  | .unwritable why => why.message

end Fault

end Disk

end Postprocessor
