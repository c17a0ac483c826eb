import Postprocessor.Config.Basic
import Postprocessor.Fields
import Postprocessor.Text.Case
import Postprocessor.Value.Whole

/-!
# Reading a configuration

A configuration is given as a mapping with a section for each of its three parts.  A section that
is missing or null is empty, and an entry that is missing takes its preset.  Entries are converted
to their types first, section by section, and checked after that.

* `Config.Fault`: what can be wrong with a configuration.
* `Config.Draft`: a converted configuration before the checks.
* `Config.ofValue`: the configuration that a mapping describes.
* `Config.value`: the mapping that describes a configuration.
-/

namespace Postprocessor.Config

/-- What can be wrong with a configuration. -/
inductive Fault where
  /-- No mapping at all. -/
  | notMapping
  /-- A section that is no mapping. -/
  | badSection (name typeName : String)
  /-- An entry that should be a whole number. -/
  | badNumber (why : WholeFault)
  /-- An entry that cannot be written as a text. -/
  | unwritable (why : Failure)
  | negativeStart (start : Int)
  | badIncrement (increment : Int)
  /-- The main file has a blank name. -/
  | blankName
  /-- The name of the level as messages show it. -/
  | badLevel (shown : String)
  deriving DecidableEq, Repr

namespace Fault

/-- The kind under which configurations are refused. -/
def configKind : String := "ConfigError"

/-- A number in a report, which may be too long to be written. -/
def withNumber (text : String) (i : Int) : String × String :=
  match Value.intWritten i with
  | .ok digits => (configKind, text ++ digits)
  | .error e => (e.kind, e.message)

/-- The names of the levels between parentheses. -/
def levelNames : String :=
  "(" ++ ", ".intercalate (Level.all.map fun l => l.name.quotedForm) ++ ")"

/-- The kind and the text by which a fault is reported. -/
def report : Fault → String × String
  | .notMapping => ("AttributeError", "not a mapping")
  | .badSection name typeName =>
    (configKind, "Section '" ++ name ++ "' must be a mapping, got " ++ typeName)
  | .badNumber .infinite => ("OverflowError", WholeFault.infinite.message)
  | .badNumber why => (configKind, "Invalid configuration value: " ++ why.message)
  | .unwritable why => (configKind, "Invalid configuration value: " ++ why.message)
  | .negativeStart start => withNumber "numbering.start must be >= 0, got " start
  | .badIncrement increment => withNumber "numbering.increment must be > 0, got " increment
  | .blankName => (configKind, "files.main_name must not be empty")
  | .badLevel shown =>
    (configKind, "logging.level must be one of " ++ levelNames ++ ", got " ++ shown)

/-- The kind under which a fault is reported. -/
def kind (f : Fault) : String := f.report.1

/-- The text that is reported. -/
def message (f : Fault) : String := f.report.2

end Fault

/-! ### Sections and entries -/

/-- The entries of a section. -/
abbrev Entries := List (Value × Value)

/-- The section with a given name. -/
def entriesOf (data : Entries) (name : String) : Except Fault Entries :=
  match Value.entry? data (.text name) with
  | none | some .null => .ok []
  | some (.mapping entries) => .ok entries
  | some v => .error (.badSection name v.typeName)

/-- A switch. -/
def flag (entries : Entries) (key : String) (preset : Bool) : Bool :=
  match Value.entry? entries (.text key) with
  | some v => v.truthy
  | none => preset

/-- A whole number. -/
def number (entries : Entries) (key : String) (preset : Int) : Except Fault Int :=
  match Value.entry? entries (.text key) with
  | some v => v.whole.mapError .badNumber
  | none => .ok preset

/-- A text. -/
def text (entries : Entries) (key preset : String) : Except Fault String :=
  match Value.entry? entries (.text key) with
  | some v => v.written.mapError .unwritable
  | none => .ok preset

/-- A text, empty if it is null. -/
def textOrEmpty (entries : Entries) (key preset : String) : Except Fault String :=
  match Value.entry? entries (.text key) with
  | some .null => .ok ""
  | _ => text entries key preset

/-! ### The parts -/

/-- The numbering that a section describes. -/
def numberingOf (entries : Entries) : Except Fault Numbering := do
  let preset : Numbering := {}
  let start ← number entries "start" preset.start
  let increment ← number entries "increment" preset.increment
  return ⟨flag entries "enabled" preset.enabled, start, increment⟩

/-- The names of files that a section describes. -/
def filesOf (entries : Entries) : Except Fault FileNames := do
  let preset : FileNames := {}
  let main ← text entries "main_name" preset.main
  let endWord ← textOrEmpty entries "subprogram_end_word" preset.endWord
  let mainExtension ← text entries "main_extension" preset.mainExtension
  let subExtension ← text entries "subprogram_extension" preset.subExtension
  return ⟨main, endWord, mainExtension, subExtension⟩

/-- The code points of a text. -/
def points (entries : Entries) (key preset : String) : Except Fault (List CodePoint) :=
  match Value.entry? entries (.text key) with
  | some (.foreign x) => .ok x.points
  | _ => (text entries key preset).map CodePoint.ofText

/-- The name of the level, in capitals, and the choice of Json that a section describes. -/
def loggingOf (entries : Entries) : Except Fault (List CodePoint × Bool) := do
  let preset : LogDefaults := {}
  let level ← points entries "level" preset.level.name
  return (CodePoint.upper level, flag entries "json" preset.json)

/-- A configuration with its entries converted and not yet checked. -/
structure Draft where
  numbering : Numbering
  files : FileNames
  level : List CodePoint
  json : Bool

/-- Converts the entries, section by section. -/
def draft (data : Entries) : Except Fault Draft := do
  let numbering ← numberingOf (← entriesOf data "numbering")
  let files ← filesOf (← entriesOf data "files")
  let (level, json) ← loggingOf (← entriesOf data "logging")
  return ⟨numbering, files, level, json⟩

/-- Checks a draft; the first thing that is wrong is reported. -/
def Draft.check (d : Draft) : Except Fault Config :=
  if d.numbering.start < 0 then .error (.negativeStart d.numbering.start)
  else if d.numbering.increment ≤ 0 then .error (.badIncrement d.numbering.increment)
  else if d.files.main.trimmed.isEmpty then .error .blankName
  else match (CodePoint.text? d.level).bind Level.ofName? with
    | some level => .ok ⟨d.numbering, d.files, ⟨level, d.json⟩⟩
    | none => .error (.badLevel (CodePoint.quotedForm d.level))

/-- The configuration that a mapping describes. -/
def ofValue (v : Value) : Except Fault Config :=
  match v with
  | .mapping data => (draft data).bind Draft.check
  | _ => .error .notMapping

/-- The mapping that describes a configuration. -/
def value (c : Config) : Value :=
  .ofFields [
    ("numbering", .ofFields [
      ("enabled", .bool c.numbering.enabled),
      ("start", .int c.numbering.start),
      ("increment", .int c.numbering.increment)]),
    ("files", .ofFields [
      ("main_name", .text c.files.main),
      ("subprogram_end_word", .text c.files.endWord),
      ("main_extension", .text c.files.mainExtension),
      ("subprogram_extension", .text c.files.subExtension)]),
    ("logging", .ofFields [
      ("level", .text c.logging.level.name),
      ("json", .bool c.logging.json)])]

end Postprocessor.Config
