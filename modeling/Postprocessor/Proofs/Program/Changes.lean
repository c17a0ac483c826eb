import Mathlib.Logic.Relation
import Postprocessor.Program.Basic
import Postprocessor.Proofs.Output.Calls

/-!
# Proofs — what a program can become

Whatever a program does, down to the requests of its listeners and the dispatches that these start,
is a sequence of changes of five kinds.  What every change keeps is therefore kept by every step of
a program.

* `Program.Change`: the five kinds of changes.
* `Program.Reaches`: one program becomes another by changes.
* `Program.Evolves`: a step that makes changes only; `evolves_dispatch` and `evolves_process` say
  that dispatches and processing do, whatever the listeners are.
* `Program.Operation`, `Program.runAll`: what a program can be told to do, and the program after
  operations that are done one after the other; `reaches_runAll`.
* `Reaches.writer`, `Reaches.events`, `Reaches.journal`: the writer of a program is driven by calls,
  and the events and the journal only grow.
-/

namespace Postprocessor.Program

variable {ι α β : Type} [BEq ι] {p q : Program ι}

/-- A change of a program. -/
inductive Change (p : Program ι) : Program ι → Prop
  /-- A call of the writer, whether it succeeds or not. -/
  | write (call : Call) : Change p { p with writer := p.writer.after call }
  | load (events : Array Event) : Change p { p with events := p.events ++ events }
  | on (event : String) (listener : ι) :
    Change p { p with registry := p.registry.on event listener }
  | off (event : String) (listener : ι) :
    Change p { p with registry := p.registry.off event listener }
  | record (entry : Entry ι) : Change p { p with journal := p.journal.push entry }

/-- The second program comes from the first one by changes. -/
abbrev Reaches (p q : Program ι) : Prop := Relation.ReflTransGen Change p q

/-- The step makes changes only, whether it succeeds or not. -/
def Evolves (step : Step (Program ι) α) : Prop := ∀ p : Program ι, p.Reaches (step p).2

/-! ### Steps -/

omit [BEq ι] in
/-- What a call of the writer does.  If it succeeds, a report may follow. -/
theorem run_write (call : Call) (p : Program ι) :
    write call p = (p.writer.outcome call, { p with
      writer := p.writer.after call
      journal := match p.writer.outcome call, callNotice? p.writer.files call with
        | .ok _, some notice => p.journal.push (.notified notice)
        | _, _ => p.journal }) := by
  have written : Step.within writer (fun p w => { p with writer := w }) (Writer.perform call) p =
      (p.writer.outcome call, { p with writer := p.writer.after call }) := Step.run_within ..
  rw [write, Step.bind_of_ok (Step.run_get p)]
  cases outcome : p.writer.outcome call with
  | error e =>
      rw [outcome] at written
      rw [Step.bind_of_error written]
  | ok u =>
      rw [outcome] at written
      rw [Step.bind_of_ok written]
      cases callNotice? p.writer.files call <;> rfl

theorem evolves_pure (a : α) : Evolves (pure a : Step (Program ι) α) := fun _ => .refl

theorem evolves_throw (e : Failure) : Evolves (throw e : Step (Program ι) α) := fun _ => .refl

theorem evolves_lift (r : Except Failure α) : Evolves (Step.lift r : Step (Program ι) α) :=
  fun _ => .refl

theorem evolves_get : Evolves (get : Step (Program ι) (Program ι)) := fun _ => .refl

theorem evolves_bind {x : Step (Program ι) α} {f : α → Step (Program ι) β} (hx : Evolves x)
    (hf : ∀ a, Evolves (f a)) : Evolves (x >>= f) := by
  intro p
  rw [Step.run_bind]
  cases (x p).1 with
  | ok a => exact (hx p).trans (hf a (x p).2)
  | error e => exact hx p

theorem evolves_forM {xs : List α} {f : α → Step (Program ι) Unit} (h : ∀ x, Evolves (f x)) :
    Evolves (xs.forM f) := by
  induction xs with
  | nil => exact evolves_pure ()
  | cons x xs ih => exact evolves_bind (h x) fun _ => ih

theorem evolves_observe {step : Step (Program ι) α} (h : Evolves step) : Evolves (observe step) := h

theorem evolves_record (e : Entry ι) : Evolves (record e) := fun _ => .single (.record e)

theorem evolves_notify (level : Level) (source : Source) (message : String) :
    Evolves (notify level source message : Step (Program ι) Unit) :=
  evolves_record _

theorem evolves_load (records : List Trace.Record) :
    Evolves (load records : Step (Program ι) Unit) :=
  fun _ => .tail (.single (.load _)) (.record _)

theorem evolves_loadText (text : String) : Evolves (loadText text : Step (Program ι) Unit) :=
  evolves_bind (evolves_record _) fun _ => evolves_load _

theorem evolves_on (event : String) (listener : ι) : Evolves (on event listener) :=
  fun _ => .single (.on event listener)

theorem evolves_off (event : String) (listener : ι) : Evolves (off event listener) :=
  fun _ => .single (.off event listener)

theorem evolves_write (call : Call) : Evolves (write call : Step (Program ι) Unit) := by
  refine evolves_bind evolves_get fun before => ?_
  refine evolves_bind (fun p => .single (.write call)) fun _ => ?_
  split
  · exact evolves_record _
  · exact evolves_pure ()

/-! ### Dispatch -/

section Dispatch

variable {trigger : Trigger ι} (behaviours : ι → Listener ι)

theorem evolves_answer (h : ∀ event params context, Evolves (trigger event params context))
    (request : Request ι) : Evolves (answer trigger request) := by
  cases request with
  | write call => exact evolves_write call
  | trigger event params context => exact h event params context
  | on event listener => exact evolves_on event listener
  | off event listener => exact evolves_off event listener
  | load records => exact evolves_load records
  | notify notice => exact evolves_record _
  | found position => exact evolves_record _

/-- A behaviour makes changes only, if the dispatches that it starts do. -/
theorem evolves_runBehaviour (h : ∀ event params context, Evolves (trigger event params context))
    (b : Behaviour ι α) : Evolves (runBehaviour trigger b) := by
  -- by induction on the requests, each of which goes on whether it is answered or refused
  induction b with
  | done a => exact evolves_pure a
  | fail e => exact evolves_throw e
  | ask request next ih => exact evolves_bind (evolves_observe (evolves_answer h request)) ih

theorem evolves_runListeners (h : ∀ event params context, Evolves (trigger event params context))
    (context : Context) (ls : List ι) (params : Params) :
    Evolves (runListeners behaviours trigger context ls params) := by
  induction ls generalizing params with
  | nil => exact evolves_pure ()
  | cons l ls ih =>
      refine evolves_bind (evolves_record _) fun _ => ?_
      exact evolves_bind (evolves_runBehaviour h (behaviours l params context)) ih

/-- **A dispatch makes changes only**, whatever the listeners do. -/
theorem evolves_dispatch (depth : Nat) (event : String) (params : Params) (context : Context) :
    Evolves (dispatch behaviours depth event params context) := by
  -- by induction on the depth: the listeners start dispatches that nest less deep
  induction depth generalizing event params context with
  | zero => exact evolves_throw .tooDeep
  | succ depth ih =>
      refine evolves_bind evolves_get fun p => ?_
      simp only
      split
      · exact evolves_notify _ _ _
      · exact evolves_runListeners behaviours ih context _ params

theorem evolves_trigger (event : String) (params : Params) (context : Context) :
    Evolves (Program.trigger behaviours event params context) :=
  evolves_dispatch behaviours depthLimit event params context

theorem evolves_triggerEvent (i : Int) (context : Context) :
    Evolves (triggerEvent behaviours i context) :=
  evolves_bind evolves_get fun _ => evolves_bind (evolves_lift _) fun _ =>
    evolves_trigger behaviours _ _ _

theorem evolves_process : Evolves (process behaviours) := by
  refine evolves_bind evolves_get fun p => ?_
  exact evolves_bind (evolves_forM fun _ => evolves_trigger behaviours _ _ _)
    fun _ => evolves_notify _ _ _

theorem evolves_generate : Evolves (generate : Step (Program ι) String) :=
  evolves_bind (evolves_write .flushAll) fun _ => evolves_bind evolves_get fun _ => evolves_pure _

theorem evolves_generateFiles :
    Evolves (generateFiles : Step (Program ι) (List (Value × String))) := by
  have texts : Evolves (do
      flushAll
      return (← get).writer.files.texts : Step (Program ι) (List (Value × String))) :=
    evolves_bind (evolves_write .flushAll) fun _ => evolves_bind evolves_get fun _ => evolves_pure _
  refine evolves_bind evolves_get fun p => ?_
  simp only
  split
  · exact evolves_bind (evolves_notify _ _ _) fun _ => texts
  · exact texts

end Dispatch

/-! ### Operations -/

/-- What a program can be told to do. -/
inductive Operation (ι : Type) where
  /-- A call of the writer. -/
  | write (call : Call)
  | load (records : List Trace.Record)
  | loadText (text : String)
  | on (event : String) (listener : ι)
  | off (event : String) (listener : ι)
  | trigger (event : String) (params : Params) (context : Context)
  /-- The dispatch of the event at a subscript. -/
  | triggerEvent (i : Int) (context : Context)
  | process
  | generate
  | generateFiles

/-- Does an operation. -/
def Operation.perform (behaviours : ι → Listener ι) : Operation ι → Step (Program ι) Unit
  | .write call => Program.write call
  | .load records => Program.load records
  | .loadText text => Program.loadText text
  | .on event listener => Program.on event listener
  | .off event listener => Program.off event listener
  | .trigger event params context => Program.trigger behaviours event params context
  | .triggerEvent i context => Program.triggerEvent behaviours i context
  | .process => Program.process behaviours
  | .generate => do let _ ← Program.generate
  | .generateFiles => do let _ ← Program.generateFiles

/-- The program after operations that are done one after the other, whether they succeed or not. -/
def runAll (behaviours : ι → Listener ι) (p : Program ι) (operations : List (Operation ι)) :
    Program ι :=
  operations.foldl (fun p operation => (p.run (operation.perform behaviours)).2) p

/-- An operation makes changes only. -/
theorem evolves_perform (behaviours : ι → Listener ι) (operation : Operation ι) :
    Evolves (operation.perform behaviours) := by
  cases operation with
  | write call => exact evolves_write call
  | load records => exact evolves_load records
  | loadText text => exact evolves_loadText text
  | on event listener => exact evolves_on event listener
  | off event listener => exact evolves_off event listener
  | trigger event params context => exact evolves_trigger behaviours event params context
  | triggerEvent i context => exact evolves_triggerEvent behaviours i context
  | process => exact evolves_process behaviours
  | generate => exact evolves_bind evolves_generate fun _ => evolves_pure ()
  | generateFiles => exact evolves_bind evolves_generateFiles fun _ => evolves_pure ()

/-- **Operations make changes only.** -/
theorem reaches_runAll (behaviours : ι → Listener ι) (p : Program ι)
    (operations : List (Operation ι)) : p.Reaches (p.runAll behaviours operations) := by
  induction operations generalizing p with
  | nil => exact .refl
  | cons operation operations ih => exact (evolves_perform behaviours operation p).trans (ih _)

/-! ### What changes keep -/

/-- The writer is driven by calls alone. -/
theorem Reaches.writer (h : p.Reaches q) : ∃ calls, q.writer = p.writer.runAll calls := by
  -- a change that is a call adds it to those before, and no other change touches the writer
  induction h with
  | refl => exact ⟨[], rfl⟩
  | tail _ change ih =>
      obtain ⟨calls, e⟩ := ih
      cases change with
      | write call => exact ⟨calls ++ [call], by rw [Writer.runAll_append, ← e]; rfl⟩
      | load | on | off | record => exact ⟨calls, e⟩

/-- Events that are loaded stay, and others come after them. -/
theorem Reaches.events (h : p.Reaches q) : p.events.toList <+: q.events.toList := by
  induction h with
  | refl => exact List.prefix_refl _
  | tail _ change ih =>
      cases change with
      | load events => exact ih.trans (by simp)
      | write | on | off | record => exact ih

/-- What happened stays in the journal. -/
theorem Reaches.journal (h : p.Reaches q) : p.journal.toList <+: q.journal.toList := by
  induction h with
  | refl => exact List.prefix_refl _
  | tail _ change ih =>
      cases change with
      | record entry => exact ih.trans (by simp)
      | write | load | on | off => exact ih

end Postprocessor.Program
