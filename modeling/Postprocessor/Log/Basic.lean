import Postprocessor.Log.Line
import Postprocessor.Text.Case

/-!
# Logs

A log has handlers, each of which writes records to a target of its own, a threshold below which
records are passed over, and a context of fields that every record is written with.

* `Handler`: a target and the style in which records are written to it.
* `Log`: the state of logging.
* `Log.push`, `Log.pop`: add fields to the context and take them away.
* `Log.admits`: whether records of a level are written.
* `Log.deliveries`: what is written of a record, and where.
* `Log.thresholdOf`: the least level that a name stands for.
-/

namespace Postprocessor

namespace Log

/-- Where records are written. -/
inductive Target where
  | console
  /-- The file of an identity. -/
  | file (id : Nat)
  deriving DecidableEq, Repr, Inhabited

/-- A target and the style in which records are written to it. -/
structure Handler where
  target : Target
  style : Style
  deriving DecidableEq, Repr

end Log

/-- The state of logging. -/
structure Log where
  /-- The least level of the records that are written. -/
  threshold : Int
  handlers : List Log.Handler
  context : Params

namespace Log

/-- The state before anything is set up: warnings and what is graver. -/
def start : Log := ⟨Level.warning.weight, [], []⟩

/-- Adds fields to the context. -/
def push (l : Log) (fields : Params) : Log :=
  { l with context := Fields.putAll l.context fields }

/-- Takes fields away from the context: those of the given keys, or all of them. -/
def pop (l : Log) (keys : Option (List String)) : Log :=
  match keys with
  | none => { l with context := [] }
  | some keys => { l with context := keys.foldl Fields.drop l.context }

/-- Whether records of a level are written. -/
def admits (l : Log) (level : Int) : Bool := 0 < level && l.threshold ≤ level

/-- What a handler writes of a record, and where.  A record that cannot be written is passed
over. -/
def Handler.delivery? (h : Handler) (context : Params) (time : Moment) (r : Record) :
    Option (Target × String) :=
  match r.line h.style context time with
  | .ok line => some (h.target, line ++ "\n")
  | .error _ => none

/-- What is written without handlers: the message alone, to the console, if it is at least a
warning. -/
def lastResort (r : Record) : List (Target × String) :=
  if r.level < Level.warning.weight then []
  else match r.plain with
    | .ok line => [(.console, line ++ "\n")]
    | .error _ => []

/-- What is written of a record, and where. -/
def deliveries (l : Log) (time : Moment) (r : Record) : List (Target × String) :=
  if !l.admits r.level then []
  else if l.handlers.isEmpty then lastResort r
  else l.handlers.filterMap fun h => h.delivery? l.context time r

/-! ### Names of levels -/

/-- Why a name stands for no level. -/
inductive LevelFault where
  /-- Nothing has the name. -/
  | unknown
  /-- The name is that of a layout of lines. -/
  | layout (text : String)
  /-- The name is that of the table of layouts. -/
  | table
  deriving DecidableEq, Repr

namespace LevelFault

/-- The kind under which a fault is reported. -/
def kind : LevelFault → String
  | .unknown => "AttributeError"
  | .layout _ => "ValueError"
  | .table => "TypeError"

/-- The text that is reported. -/
def message : LevelFault → String
  | .unknown => "unknown level"
  | .layout text => "Unknown level: " ++ text.quotedForm
  | .table => "not a level"

end LevelFault

/-- The layout of lines that a log starts with. -/
def basicLayout : String := "%(levelname)s:%(name)s:%(message)s"

/-- The names, in capitals, that stand for something else than one of the five levels. -/
def otherNames : List (String × Except LevelFault Int) := [
  ("WARN", .ok Level.warning.weight),
  ("FATAL", .ok Level.critical.weight),
  ("NOTSET", .ok 0),
  ("BASIC_FORMAT", .error (.layout basicLayout)),
  ("_STYLES", .error .table)]

/-- The least level that a name in any case stands for. -/
def thresholdOf (name : String) : Except LevelFault Int :=
  let name := String.ofList (Text.upper name.toList)
  match Level.ofName? name with
  | some l => .ok l.weight
  | none => (otherNames.lookup name).getD (.error .unknown)

end Log

end Postprocessor
