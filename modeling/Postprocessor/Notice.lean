import Postprocessor.Level

/-!
# Notices

What the parts of the program report about their work.

* `Source`: who reports.
* `Notice`: a report, its weight and its source.
-/

namespace Postprocessor

/-- A part of the program that reports about its work. -/
inductive Source where
  | traces | events | writing | handlers | configuration | command
  deriving DecidableEq, Repr, Inhabited

/-- The name under which a part reports. -/
def Source.name : Source → String
  | .traces => "trace_post.trace.parser"
  | .events => "trace_post.program.program"
  | .writing => "trace_post.gcode.builder"
  | .handlers => "trace_post.handlers.standard"
  | .configuration => "trace_post.configs.loader"
  | .command => "trace_post.scripts.run_post"

/-- A report. -/
structure Notice where
  level : Level
  source : Source
  message : String
  deriving DecidableEq, Repr, Inhabited

end Postprocessor
