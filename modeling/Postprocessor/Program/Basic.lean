import Postprocessor.Program.Behaviour

/-!
# Programs

A program holds the loaded events, the listeners of each event and the writer to which they write.
It dispatches one event after the other, and every dispatch may start others.

* `Registry`: the listeners of every event, in the order in which they were added.
* `Program`: the writer, the events, the registry and a journal of what happened.
* `Program.dispatch`: runs the listeners that an event had when it was dispatched.
* `Program.process`: dispatches all events that were loaded when it was called.
* `Program.generate`, `generateFiles`: the texts that were written.
-/

namespace Postprocessor

variable {ι : Type}

/-! ### Registries -/

/-- The listeners of every event. -/
abbrev Registry (ι : Type) : Type := List (String × List ι)

namespace Registry

/-- The listeners of an event. -/
def listeners (r : Registry ι) (event : String) : List ι := (r.lookup event).getD []

/-- Adds a listener after those of its event. -/
def on (r : Registry ι) (event : String) (listener : ι) : Registry ι :=
  Fields.put r event (r.listeners event ++ [listener])

/-- Takes a listener away from an event, wherever it stands. -/
def off [BEq ι] (r : Registry ι) (event : String) (listener : ι) : Registry ι :=
  match r.lookup event with
  | some ls => Fields.put r event (ls.filter fun l => !(l == listener))
  | none => r

theorem listeners_on (r : Registry ι) (event other : String) (listener : ι) :
    (r.on event listener).listeners other
      = r.listeners other ++ (if other = event then [listener] else []) := by
  by_cases h : other = event
  · subst h
    simp [on, listeners]
  · simp [on, listeners, Fields.lookup_put_of_ne h, h]

theorem listeners_off [BEq ι] (r : Registry ι) (event other : String) (listener : ι) :
    (r.off event listener).listeners other
      = if other = event then (r.listeners other).filter fun l => !(l == listener)
        else r.listeners other := by
  cases hr : r.lookup event with
  | none =>
    by_cases h : other = event
    · subst h
      simp [off, listeners, hr]
    · simp [off, hr, h]
  | some ls =>
    by_cases h : other = event
    · subst h
      simp [off, listeners, hr]
    · simp [off, hr, listeners, Fields.lookup_put_of_ne h, h]

end Registry

/-! ### Programs -/

/-- Something that happened while a program ran. -/
inductive Entry (ι : Type) where
  /-- A listener was run. -/
  | invoked (listener : ι) (params : Params) (context : Context)
  /-- A listener recorded what it found. -/
  | found (position : Option Nat)
  | notified (notice : Notice)

/-- A program. -/
structure Program (ι : Type) where
  writer : Writer
  events : Array Event
  registry : Registry ι
  /-- What happened so far. -/
  journal : Array (Entry ι)

namespace Program

/-- A program without events and listeners. -/
def start (w : Writer) : Program ι := ⟨w, #[], [], #[]⟩

/-- Adds an entry to the journal. -/
def record (e : Entry ι) : Step (Program ι) Unit :=
  modify fun p => { p with journal := p.journal.push e }

/-- Reports something. -/
def notify (level : Level) (source : Source) (message : String) : Step (Program ι) Unit :=
  record (.notified ⟨level, source, message⟩)

/-- Loads the events of records after those that are loaded. -/
def load (records : List Trace.Record) : Step (Program ι) Unit := do
  let p ← get
  let events := p.events ++ (records.map fun r => (⟨r.name, r.params⟩ : Event)).toArray
  set { p with events := events }
  notify .debug .events s!"Loaded {records.length} events ({events.size} total)"

/-- Loads the events of a trace. -/
def loadText (text : String) : Step (Program ι) Unit := do
  let records := (Trace.records text).toList
  record (.notified (Trace.notice records))
  load records

/-- Adds a listener for an event. -/
def on (event : String) (listener : ι) : Step (Program ι) Unit :=
  modify fun p => { p with registry := p.registry.on event listener }

/-- Takes a listener for an event away. -/
def off [BEq ι] (event : String) (listener : ι) : Step (Program ι) Unit :=
  modify fun p => { p with registry := p.registry.off event listener }

/-- A name in a report. -/
def nameShown (name : Value) : String := name.written.toOption.getD ""

/-- What is reported of a call that was performed; `s` are the files before it. -/
def callNotice? (s : FileSet) : Call → Option Notice
  | .openSub name => some ⟨.debug, .writing, "Opened subprogram " ++ nameShown name⟩
  | .closeSub => some ⟨.debug, .writing, "Closed subprogram " ++ nameShown s.current.name⟩
  | _ => none

/-- Performs a call of the writer. -/
def write (call : Call) : Step (Program ι) Unit := do
  let before := (← get).writer.files
  Step.within writer (fun p w => { p with writer := w }) (Writer.perform call)
  match callNotice? before call with
  | some notice => record (.notified notice)
  | none => pure ()

/-! ### Dispatch -/

/-- The way in which the listeners of an event are run. -/
abbrev Trigger (ι : Type) : Type := String → Params → Context → Step (Program ι) Unit

/-- Answers a request. -/
def answer [BEq ι] (trigger : Trigger ι) : Request ι → Step (Program ι) Unit
  | .write call => write call
  | .trigger event params context => trigger event params context
  | .on event listener => on event listener
  | .off event listener => off event listener
  | .load records => load records
  | .notify notice => record (.notified notice)
  | .found position => record (.found position)

/-- The outcome of a step, which itself never fails. -/
def observe {σ α : Type} (step : Step σ α) : Step σ (Except Failure α) :=
  fun s =>
    let (r, s') := step s
    (.ok r, s')

/-- Runs a behaviour to its end. -/
def runBehaviour [BEq ι] {α : Type} (trigger : Trigger ι) : Behaviour ι α → Step (Program ι) α
  | .done a => pure a
  | .fail e => throw e
  | .ask request next => do
    let r ← observe (answer trigger request)
    runBehaviour trigger (next r)

/-- Runs listeners in order, each with the parameters that the one before it has left. -/
def runListeners [BEq ι] (behaviours : ι → Listener ι) (trigger : Trigger ι) (context : Context) :
    List ι → Params → Step (Program ι) Unit
  | [], _ => pure ()
  | l :: ls, params => do
    record (.invoked l params context)
    let params ← runBehaviour trigger (behaviours l params context)
    runListeners behaviours trigger context ls params

/-- Runs the listeners that the event has at this moment.  Dispatches nest at most `depth` deep. -/
def dispatch [BEq ι] (behaviours : ι → Listener ι) : Nat → Trigger ι
  | 0, _, _, _ => throw .tooDeep
  | depth + 1, event, params, context => do
    let ls := (← get).registry.listeners event
    if ls.isEmpty then notify .debug .events ("No listeners for " ++ event)
    else runListeners behaviours (dispatch behaviours depth) context ls params

/-- The deepest nesting of dispatches. -/
abbrev depthLimit : Nat := 300

/-- Runs the listeners of an event. -/
def trigger [BEq ι] (behaviours : ι → Listener ι) : Trigger ι := dispatch behaviours depthLimit

/-- Runs the listeners of the event at a subscript. -/
def triggerEvent [BEq ι] (behaviours : ι → Listener ι) (i : Int) (context : Context) :
    Step (Program ι) Unit := do
  let p ← get
  let position ← Step.lift (Search.subscript p.events.size i)
  let event := p.events.getD position default
  trigger behaviours event.name event.params context

/-- Dispatches every event that is loaded at this moment, in order. -/
def process [BEq ι] (behaviours : ι → Listener ι) : Step (Program ι) Unit := do
  let events := (← get).events
  events.toList.zipIdx.forM fun (event, i) =>
    trigger behaviours event.name event.params ⟨events, some i⟩
  notify .info .events s!"Processed {events.size} events"

/-! ### Output -/

/-- Ends the line of every file. -/
def flushAll : Step (Program ι) Unit := write .flushAll

/-- The text of the main file, with the lines of all files ended. -/
def generate : Step (Program ι) String := do
  flushAll
  return (← get).writer.files.main.text

/-- The names and texts of all files, with their lines ended. -/
def generateFiles : Step (Program ι) (List (Value × String)) := do
  let files := (← get).writer.files
  if files.opened.isSome then
    notify .warning .events
      ("Subprogram " ++ nameShown files.current.name ++ " still open at end of output")
  flushAll
  return (← get).writer.files.texts

/-- Runs a step on a program. -/
def run {α : Type} (p : Program ι) (step : Step (Program ι) α) : Except Failure α × Program ι :=
  step p

end Program

end Postprocessor
