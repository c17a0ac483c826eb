import Postprocessor.Notice
import Postprocessor.Program.Event
import Postprocessor.Trace.Record
import Postprocessor.Writer

/-!
# Listeners

A listener gets the parameters and the context of an event.  It makes requests, one after the other,
and learns of each whether it succeeded; at its end it leaves the parameters for the listeners after
it.

* `Request`: what a listener can ask for.  Listeners are known by identifiers of a type `ι`.
* `Behaviour`: what a listener does.
* `Listener`: the behaviour for given parameters in a given context.
-/

namespace Postprocessor

/-- What is reported of the reading of a trace. -/
def Trace.notice (records : List Trace.Record) : Notice :=
  ⟨.debug, .traces, s!"Parsed {records.length} trace events"⟩

/-- A request of a listener. -/
inductive Request (ι : Type) where
  /-- A call of the writer. -/
  | write (call : Call)
  /-- Runs the listeners of an event. -/
  | trigger (event : String) (params : Params) (context : Context)
  /-- Adds a listener for an event. -/
  | on (event : String) (listener : ι)
  /-- Takes a listener for an event away. -/
  | off (event : String) (listener : ι)
  /-- Loads more events. -/
  | load (records : List Trace.Record)
  /-- Reports something. -/
  | notify (notice : Notice)
  /-- Records what a lookup found. -/
  | found (position : Option Nat)

/-- What a listener does until it yields a result or fails. -/
inductive Behaviour (ι α : Type) where
  | done (result : α)
  | fail (failure : Failure)
  | ask (request : Request ι) (next : Except Failure Unit → Behaviour ι α)

namespace Behaviour

variable {ι α β : Type}

/-- Goes on with the result of a behaviour. -/
def bind (x : Behaviour ι α) (f : α → Behaviour ι β) : Behaviour ι β :=
  match x with
  | .done a => f a
  | .fail e => .fail e
  | .ask request next => .ask request fun r => (next r).bind f

instance : Monad (Behaviour ι) where
  pure := .done
  bind := .bind

/-- Makes a request, and fails if it fails. -/
def request (r : Request ι) : Behaviour ι Unit :=
  .ask r fun
    | .ok () => .done ()
    | .error e => .fail e

/-- A result that may be missing. -/
def lift (r : Except Failure α) : Behaviour ι α :=
  match r with
  | .ok a => .done a
  | .error e => .fail e

end Behaviour

/-- A listener. -/
abbrev Listener (ι : Type) : Type := Params → Context → Behaviour ι Params

end Postprocessor
