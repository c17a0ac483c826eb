import Postprocessor.Json
import Postprocessor.Level
import Postprocessor.Log.Filling
import Postprocessor.Log.Moment

/-!
# Log lines

A record is written as a line for people or as a Json text, together with the fields of the context
in which it was made.

* `Log.Record`: what is logged.
* `Style`: the ways to write a record.
* `Record.line`: a record in a style.
* `Record.plain`: the message alone.
-/

namespace Postprocessor.Log

/-- What is logged. -/
structure Record where
  /-- The name of the part that reports. -/
  source : String
  level : Int
  /-- The template of the message. -/
  template : String
  arguments : List Value := []
  /-- The kind and the message of a failure that is reported with it. -/
  failure : Option (String × String) := none

/-- How records are written. -/
structure Style where
  /-- As a Json text. -/
  json : Bool
  /-- With colours on a terminal. -/
  colours : Bool
  deriving DecidableEq, Repr

/-- Why a record cannot be written. -/
inductive LineFault where
  | moment (why : MomentFault)
  | filling (why : FillFault)
  | unwritable (why : Failure)
  deriving DecidableEq, Repr

namespace LineFault

/-- The kind under which a fault is reported. -/
def kind : LineFault → String
  | .moment why => why.kind
  | .filling why => why.kind
  | .unwritable why => why.kind

/-- The text that is reported. -/
def message : LineFault → String
  | .moment why => why.message
  | .filling why => why.message
  | .unwritable why => why.message

end LineFault

/-! ### Parts of a line -/

/-- The name of a level: its own, or one that is made of its number. -/
def levelName (level : Int) : Except Failure String :=
  match Level.ofWeight? level with
  | some l => .ok l.name
  | none => if level = 0 then .ok "NOTSET" else (Value.intWritten level).map ("Level " ++ ·)

/-- The code that starts the colour of a named level. -/
def colourOf : Level → String
  | .debug => "\x1b[36m"
  | .info => "\x1b[32m"
  | .warning => "\x1b[33m"
  | .error => "\x1b[31m"
  | .critical => "\x1b[35m"

/-- The code that ends a colour. -/
def colourEnd : String := "\x1b[0m"

/-- The width of the names of the levels. -/
abbrev levelWidth : Nat := 8

/-- The name of a level in a line. -/
def levelShown (colours : Bool) (level : Int) (name : String) : String :=
  let padded := name ++ String.ofList (List.replicate (levelWidth - name.length) ' ')
  if colours then
    let start := match Level.ofWeight? level with
      | some l => colourOf l
      | none => ""
    start ++ padded ++ colourEnd
  else padded

/-- A field of the context in a line. -/
def fieldShown (field : String × Value) : Except LineFault String :=
  (field.2.written.mapError .unwritable).map fun v => field.1 ++ "=" ++ v

/-- A failure in a line. -/
def failureShown (failure : String × String) : String :=
  if failure.2.isEmpty then failure.1 else failure.1 ++ ": " ++ failure.2

namespace Record

/-- The name of the level of a record.  Without it there is no record. -/
def levelName (r : Record) : Except LineFault String :=
  (Log.levelName r.level).mapError .unwritable

/-- The message of a record. -/
def message (r : Record) : Except LineFault String :=
  (fill r.template r.arguments).mapError .filling

/-- The failure of a record on a line of its own. -/
def failureLine (r : Record) : String :=
  match r.failure with
  | some failure => "\n" ++ failureShown failure
  | none => ""

/-- The message alone. -/
def plain (r : Record) : Except LineFault String := do
  let _ ← r.levelName
  return (← r.message) ++ r.failureLine

/-- The line for people: the parts that are there, between bars. -/
def humanLine (r : Record) (colours : Bool) (context : Params) (time : Moment) :
    Except LineFault String := do
  let level ← r.levelName
  let fields ← context.mapM fieldShown
  let message ← r.message
  let parts := [time.stamp, levelShown colours r.level level]
    ++ (if fields.isEmpty then [] else [" ".intercalate fields]) ++ [message]
  return " | ".intercalate parts ++ r.failureLine

/-- The fields of a record.  Fields of the context take the place of what stands before them, and
what comes after them takes theirs. -/
def fields (r : Record) (context : Params) (time : Moment) (level message : String) : Params :=
  let own : Params := [("t", .text time.iso), ("lvl", .text level), ("name", .text r.source)]
  let all := Fields.put (Fields.putAll own context) "msg" (.text message)
  match r.failure with
  | some failure => Fields.put all "exc" (.text (failureShown failure))
  | none => all

/-- The record as a Json text. -/
def jsonLine (r : Record) (context : Params) (time : Moment) : Except LineFault String := do
  let level ← r.levelName
  let message ← r.message
  ((Value.ofFields (r.fields context time level message)).json .line).mapError .unwritable

/-- The record in a style. -/
def line (r : Record) (style : Style) (context : Params) (time : Moment) :
    Except LineFault String :=
  if style.json then r.jsonLine context time else r.humanLine style.colours context time

end Record

end Postprocessor.Log
