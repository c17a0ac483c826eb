import Postprocessor.Program.Basic

/-!
# The standard handlers

The listeners for the events that every milling trace has.

* `Handler`: the handlers.
* `Handler.event`: the event of a handler.
* `Handler.listener`: what a handler does.
* `Program.addStandard`: adds all handlers.
-/

namespace Postprocessor

/-- A standard handler. -/
inductive Handler where
  | feedSpin | rapidMove | line | absoluteMode | machinePlane | changeTool | message | endOfFile
  deriving DecidableEq, Repr, Inhabited

namespace Handler

/-- All handlers in the order in which they are added. -/
def all : List Handler :=
  [.feedSpin, .rapidMove, .line, .absoluteMode, .machinePlane, .changeTool, .message, .endOfFile]

/-- The event of a handler. -/
def event : Handler → String
  | .feedSpin => "MFeedSpin"
  | .rapidMove => "RapidMove"
  | .line => "Line"
  | .absoluteMode => "AbsoluteMode"
  | .machinePlane => "MachinePlane"
  | .changeTool => "ChangeTool"
  | .message => "Message"
  | .endOfFile => "EndOfFile"

variable {ι : Type}

/-- Makes a call of the writer. -/
def write (call : Call) : Behaviour ι Unit := .request (.write call)

/-- Makes a verb, and ends its line. -/
def verb (v : Verb) : Behaviour ι Unit := write (.verb v false false)

/-- Reports something unusual. -/
def warn (message : String) : Behaviour ι Unit := .request (.notify ⟨.warning, .handlers, message⟩)

/-- The target of a move. -/
def target (params : Params) : Axis → Value
  | .x => params.get "xpos"
  | .y => params.get "ypos"
  | .z => params.get "zpos"
  | _ => .null

/-- The speed and the direction of the spindle, on one line.  A direction of feed is left out. -/
def spin (params : Params) : Behaviour ι Unit := do
  write (.verb (.set (.speed (params.get "spin"))) false true)
  match params.get "spin_direction" with
  | .null => pure ()
  | direction =>
    match directionCode direction with
    | .ok _ => write (.verb (.set (.direction direction)) false true)
    | .error _ =>
      warn ("MFeedSpin spin_direction " ++ Program.nameShown direction
        ++ " is not a spindle direction")
  write .flush

/-- The working plane. -/
def plane (params : Params) : Behaviour ι Unit :=
  match params.get "machine_plane" with
  | .null => warn "MachinePlane event without machine_plane"
  | p => verb (.set (.plane p))

/-- The tool that is named, or else the one that is numbered. -/
def toolOf (params : Params) : Value :=
  let name := params.get "tool_id_string"
  if name.truthy then name else params.get "tool_number"

/-- The name of a tool: a text as it stands, a number in digits. -/
def toolName (tool : Value) : Except Failure Value :=
  match tool with
  | .text _ | .symbol _ => .ok tool
  | v => v.plain.map .text

/-- The change of the tool. -/
def tool (params : Params) : Behaviour ι Unit :=
  match toolOf params with
  | .null => warn "ChangeTool event without tool_id_string or tool_number"
  | tool => do
    let name ← Behaviour.lift (toolName tool)
    verb (.changeTool name)

/-- A message as a comment. -/
def comment (params : Params) : Behaviour ι Unit := do
  let text ← Behaviour.lift ((params.lookup "message").getD (.text "")).written
  write (.comment (.text text) false)

/-- What a handler does. -/
def action : Handler → Params → Behaviour ι Unit
  | .feedSpin, params => spin params
  | .rapidMove, params => verb (.rapid (target params))
  | .line, params => verb (.line (target params) (params.get "feed"))
  | .absoluteMode, _ => verb (.set (.mode .positioning (.int 90)))
  | .machinePlane, params => plane params
  | .changeTool, params => tool params
  | .message, params => comment params
  | .endOfFile, _ => write (.put (.text "M30") true)

/-- The handler as a listener, which leaves the parameters as they are. -/
def listener (h : Handler) : Listener ι := fun params _ => do
  h.action params
  return params

end Handler

/-- Adds the standard handlers, each under its own event. -/
def Program.addStandard {ι : Type} (name : Handler → ι) : Step (Program ι) Unit := do
  Handler.all.forM fun h => Program.on h.event (name h)
  Program.notify .debug .handlers s!"Registered {Handler.all.length} standard handlers"

end Postprocessor
