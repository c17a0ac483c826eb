import Postprocessor.Proofs.Program.Rejection
import Postprocessor.Proofs.Views

/-!
# Proofs — the work of a program

What a program has put out is what its writer holds and what it has warned of.  The standard
handlers work on that alone: the registry, the loaded events, the journal and the place of an event
among the others have no influence on it.

* `Work`, `Program.work`: what a program has put out.
* `Behaviour.IsPlain`, `Behaviour.onWork`: a behaviour that makes calls and reports only, as a step
  on the work; `seen_runBehaviour` says that its run in a program is seen as that step.
* `Event.onWork`: what an event of the standard handlers does to the work; `seen_dispatch`.
* `Event.perform`: the same for the writer alone: the calls for the event up to the first that
  fails.
* `Writer.Drives`: a step that makes calls of a kind only; `drives_processed`.
* `work_processed`, `writer_processed`: the processing of records is seen as the steps of their
  events, one after the other.
* `seen_generate`, `seen_generateFiles`: the generation of texts is seen as a step on the work too.
-/

namespace Postprocessor

/-- What a program has put out. -/
structure Work where
  writer : Writer
  warnings : List Notice

namespace Work

/-- The work before anything is done. -/
def start (c : Config) : Work := ⟨.start c, []⟩

/-- Makes a call of the writer. -/
def write (call : Call) : Step Work Unit :=
  .within writer (fun w u => { w with writer := u }) (Writer.perform call)

/-- Keeps a report if it is a warning. -/
def note (n : Notice) : Step Work Unit :=
  modify fun w => { w with warnings := w.warnings ++ [n].filter (·.level = .warning) }

end Work

/-- What a program has put out so far. -/
def Program.work {ι : Type} (p : Program ι) : Work :=
  ⟨p.writer, p.notices.filter (·.level = .warning)⟩

/-! ### Behaviours -/

section Behaviours

variable {ι α β : Type}

/-- The behaviour makes no requests other than calls of the writer and reports. -/
inductive Behaviour.IsPlain : Behaviour ι α → Prop
  | done (result : α) : IsPlain (.done result)
  | fail (e : Failure) : IsPlain (.fail e)
  | write (call : Call) {next : Except Failure Unit → Behaviour ι α}
    (rest : ∀ r, IsPlain (next r)) : IsPlain (.ask (.write call) next)
  | notify (notice : Notice) {next : Except Failure Unit → Behaviour ι α}
    (rest : ∀ r, IsPlain (next r)) : IsPlain (.ask (.notify notice) next)

/-- What a request does to the work.  Calls and reports are all that does anything to it at once. -/
def Request.onWork : Request ι → Step Work Unit
  | .write call => Work.write call
  | .notify notice => Work.note notice
  | .trigger .. | .on .. | .off .. | .load _ | .found _ => pure ()

/-- What a behaviour does to the work. -/
def Behaviour.onWork : Behaviour ι α → Step Work α
  | .done a => pure a
  | .fail e => throw e
  | .ask request next => do
    let r ← Program.observe request.onWork
    (next r).onWork

namespace Behaviour

theorem isPlain_bind {x : Behaviour ι α} {f : α → Behaviour ι β} (hx : x.IsPlain)
    (hf : ∀ a, (f a).IsPlain) : (x >>= f).IsPlain := by
  induction hx with
  | done a => exact hf a
  | fail e => exact .fail e
  | write call _ ih => exact .write call ih
  | notify notice _ ih => exact .notify notice ih

theorem isPlain_lift (r : Except Failure α) : (lift r : Behaviour ι α).IsPlain := by
  cases r with
  | ok a => exact .done a
  | error e => exact .fail e

theorem isPlain_write (call : Call) : (request (.write call) : Behaviour ι Unit).IsPlain := by
  refine .write call fun r => ?_
  cases r with
  | ok _ => exact .done ()
  | error e => exact .fail e

theorem isPlain_notify (notice : Notice) :
    (request (.notify notice) : Behaviour ι Unit).IsPlain := by
  refine .notify notice fun r => ?_
  cases r with
  | ok _ => exact .done ()
  | error e => exact .fail e

theorem onWork_bind (x : Behaviour ι α) (f : α → Behaviour ι β) :
    (x >>= f).onWork = x.onWork >>= fun a => (f a).onWork := by
  induction x with
  | done a => rfl
  | fail e => rfl
  | ask request more ih =>
      show (do
          let r ← Program.observe request.onWork
          ((more r).bind f).onWork) = _
      rw [onWork, bind_assoc]
      exact congrArg _ (funext ih)

theorem onWork_request (r : Request ι) : (request r).onWork = r.onWork := by
  funext w
  rw [request, onWork, Step.run_bind]
  rcases h : r.onWork w with ⟨e | u, w'⟩ <;> simp [Program.observe, h, onWork]

end Behaviour

end Behaviours

/-- A handler makes calls and reports, and nothing else. -/
theorem Handler.isPlain_action {ι : Type} (h : Handler) (params : Params) :
    (h.action params : Behaviour ι Unit).IsPlain := by
  cases h with
  | feedSpin =>
      refine Behaviour.isPlain_bind (Behaviour.isPlain_write _) fun _ => ?_
      split
      · exact Behaviour.isPlain_write _
      · split
        · exact Behaviour.isPlain_bind (Behaviour.isPlain_write _) fun _ =>
            Behaviour.isPlain_write _
        · exact Behaviour.isPlain_bind (Behaviour.isPlain_notify _) fun _ =>
            Behaviour.isPlain_write _
  | rapidMove | line | absoluteMode | endOfFile => exact Behaviour.isPlain_write _
  | machinePlane =>
      rw [action, plane]
      split
      · exact Behaviour.isPlain_notify _
      · exact Behaviour.isPlain_write _
  | changeTool =>
      rw [action, tool]
      split
      · exact Behaviour.isPlain_notify _
      · exact Behaviour.isPlain_bind (Behaviour.isPlain_lift _) fun _ => Behaviour.isPlain_write _
  | message =>
      exact Behaviour.isPlain_bind (Behaviour.isPlain_lift _) fun _ => Behaviour.isPlain_write _

/-! ### Programs -/

namespace Program

section Seen

variable {ι α : Type} {r : Registry ι}

/-- In programs with the listeners `r`, which stay, the step is seen as a step on the work. -/
abbrev Seen (r : Registry ι) (x : Step (Program ι) α) (y : Step Work α) : Prop :=
  Step.SeenAs (fun p => p.registry = r) work x y

/-- The warnings after an entry of the journal. -/
theorem work_push (p : Program ι) (e : Entry ι) :
    work { p with journal := p.journal.push e } =
      ⟨p.writer, p.work.warnings ++
        (notices { p with journal := #[e] }).filter (·.level = .warning)⟩ := by
  simp only [work, notices, Array.toList_push, List.filterMap_append, List.filter_append]

theorem seen_notified (n : Notice) : Seen r (record (.notified n)) (Work.note n) := by
  refine Step.SeenAs.modify fun p hp => ⟨?_, hp⟩
  exact work_push p _

/-- An entry that is no warning is not seen. -/
theorem seen_record {e : Entry ι} (h : ∀ n, e = .notified n → n.level ≠ .warning) :
    Seen r (record e) (pure ()) := by
  refine fun p hp => ⟨?_, hp⟩
  have same : work { p with journal := p.journal.push e } = p.work := by
    rw [work_push]
    cases e with
    | invoked | found => simp [work, notices]
    | notified n => simp [work, notices, h n rfl]
  exact congrArg (Prod.mk _) same.symm

theorem level_callNotice {s : FileSet} {call : Call} {n : Notice}
    (h : callNotice? s call = some n) : n.level = .debug := by
  cases call <;> cases h <;> rfl

/-- A call of the writer is seen as such. -/
theorem seen_write (call : Call) : Seen r (write call) (Work.write call) := by
  intro p hp
  have step : Work.write call p.work =
      (p.writer.outcome call, ⟨p.writer.after call, p.work.warnings⟩) := rfl
  rw [run_write, step]
  refine ⟨congrArg (Prod.mk _) ?_, hp⟩
  -- a call may be reported, but never as a warning
  split
  · next n _ notice =>
    refine ((work_push { p with writer := p.writer.after call } (.notified n)).trans ?_).symm
    simp [work, notices, level_callNotice notice]
  · rfl

theorem seen_observe {x : Step (Program ι) α} {y : Step Work α} (h : Seen r x y) :
    Seen r (observe x) (observe y) := by
  intro p hp
  obtain ⟨hrun, hr⟩ := h p hp
  refine ⟨?_, hr⟩
  rw [observe, hrun]
  rfl

variable [BEq ι] {trigger : Trigger ι}

/-- **A plain behaviour**, run in a program, is seen as what it does to the work. -/
theorem seen_runBehaviour {b : Behaviour ι α} (h : b.IsPlain) :
    Seen r (runBehaviour trigger b) b.onWork := by
  induction h with
  | done a => exact .pure a
  | fail e => exact .throw e
  | write call _ ih => exact (seen_observe (seen_write call)).bind ih
  | notify notice _ ih => exact (seen_observe (seen_notified notice)).bind ih

end Seen

end Program

/-! ### Events -/

/-- What an event of the standard handlers does to the work. -/
def Event.onWork (e : Event) : Step Work Unit :=
  match Handler.ofEvent? e.name with
  | some h => (h.action e.params : Behaviour Handler Unit).onWork
  | none => pure ()

namespace Program

/-- A handler that is the only listener does what it does, and leaves no parameters to others. -/
theorem runListeners_handler (trigger : Trigger Handler) (context : Context) (h : Handler)
    (params : Params) (p : Program Handler) :
    runListeners Handler.listener trigger context [h] params p =
      runBehaviour trigger (h.action params) (p.invoking h params context) := by
  rw [runListeners_cons, Handler.listener, runBehaviour_bind, bind_assoc]
  exact congrFun (bind_pure (runBehaviour trigger (h.action params))) _

/-- **A dispatch** to the standard handlers is seen as what the event does to the work, whatever its
context is. -/
theorem seen_dispatch (depth : Nat) (e : Event) (context : Context) :
    Seen Handler.registry (dispatch Handler.listener (depth + 1) e.name e.params context)
      e.onWork := by
  refine fun p hp => ?_
  rw [dispatch_succ, hp, Handler.listeners_registry, Event.onWork]
  cases Handler.ofEvent? e.name with
  | none => exact seen_record (fun n hn => by cases hn; simp) p hp
  | some h =>
      have invoked : Seen Handler.registry (record (.invoked h e.params context)) (pure ()) :=
        seen_record fun n hn => by cases hn
      have action : Seen Handler.registry
          (runBehaviour (dispatch Handler.listener depth) (h.action e.params))
          (h.action e.params : Behaviour Handler Unit).onWork :=
        seen_runBehaviour (h.isPlain_action _)
      rw [if_neg (by simp), Option.toList_some, runListeners_handler]
      exact invoked.bind (fun _ => action) p hp

/-- The dispatches of events are seen as what the events do to the work, one after the other. -/
theorem seen_dispatches (events : Array Event) (xs : List (Event × Nat)) :
    Seen Handler.registry (xs.forM (dispatchAt Handler.listener events))
      ((xs.map Prod.fst).forM Event.onWork) := by
  rw [List.forM_eq_forM, List.forM_eq_forM, List.forM_map]
  exact Step.SeenAs.forM fun x _ => seen_dispatch (depthLimit - 1) x.1 (contextAt events x.2)

theorem work_process {p : Program Handler} (h : p.registry = Handler.registry) :
    p.events.toList.forM Event.onWork p.work =
        ((process Handler.listener p).1, (process Handler.listener p).2.work) ∧
      (process Handler.listener p).2.registry = Handler.registry := by
  have report : Seen Handler.registry
      (notify .info .events s!"Processed {p.events.size} events") (pure ()) :=
    seen_record fun n hn => by cases hn; simp
  have all := (seen_dispatches p.events p.events.toList.zipIdx).bind fun _ => report
  rw [List.zipIdx_map_fst] at all
  rw [← congrFun (bind_pure (p.events.toList.forM Event.onWork)) p.work, process_eq]
  exact all p h

/-- Loading records into a program with the standard handlers puts out nothing. -/
theorem processed_work (c : Config) (records : List Trace.Record) : ∃ p : Program Handler,
    processed c records = process Handler.listener p ∧ p.registry = Handler.registry ∧
      p.events = (records.map Trace.Record.event).toArray ∧ p.work = .start c :=
  ⟨_, rfl, rfl, Array.empty_append, rfl⟩

/-- **The processing of records** is seen as what their events do to the work, one after the
other. -/
theorem work_processed (c : Config) (records : List Trace.Record) :
    (records.map Trace.Record.event).forM Event.onWork (Work.start c) =
      ((processed c records).1, (processed c records).2.work) := by
  obtain ⟨p, run, registry, events, work⟩ := processed_work c records
  rw [run, ← (work_process registry).1, events, work]

/-- The processing of records keeps the registry. -/
theorem registry_processed (c : Config) (records : List Trace.Record) :
    (processed c records).2.registry = Handler.registry := by
  obtain ⟨p, run, registry, -, -⟩ := processed_work c records
  rw [run]
  exact (work_process registry).2

end Program

/-! ### Generating texts -/

namespace Work

/-- The text of the main file, with the lines of all files ended. -/
def generate : Step Work String := do
  write .flushAll
  return (← get).writer.files.main.text

/-- The names and texts of all files, with their lines ended. -/
def generateFiles : Step Work (List (Value × String)) := do
  let files := (← get).writer.files
  if files.opened.isSome then
    note ⟨.warning, .events,
      "Subprogram " ++ Program.nameShown files.current.name ++ " still open at end of output"⟩
  write .flushAll
  return (← get).writer.files.texts

end Work

namespace Program

variable {ι : Type} {r : Registry ι}

theorem seen_generate : Seen r (generate : Step (Program ι) String) Work.generate :=
  (seen_write .flushAll).bind fun _ => .get fun _ _ => .pure _

theorem seen_generateFiles :
    Seen r (generateFiles : Step (Program ι) (List (Value × String))) Work.generateFiles := by
  have texts : Seen r (do flushAll; return (← get).writer.files.texts)
      (do Work.write .flushAll; return (← get).writer.files.texts) :=
    (seen_write .flushAll).bind fun _ => .get fun _ _ => .pure _
  refine .get fun p _ => ?_
  show Seen r (if p.writer.files.opened.isSome = true then _ else _)
    (if p.writer.files.opened.isSome = true then _ else _)
  split
  · exact (seen_notified _).bind fun _ => texts
  · exact texts

end Program

/-! ### Calls -/

namespace Work

variable {α : Type}

/-- The step on the work is seen as one on the writer alone. -/
abbrev Writes (x : Step Work α) (y : Step Writer α) : Prop :=
  Step.SeenAs (fun _ => True) writer x y

theorem writes_note (n : Notice) : Writes (note n) (pure ()) := fun _ _ => ⟨rfl, trivial⟩

theorem writes_write (call : Call) : Writes (write call) (Writer.perform call) :=
  fun _ _ => ⟨rfl, trivial⟩

variable {ι : Type} {b : Behaviour ι Unit} {calls : List Call}

/-- A call before others. -/
theorem writes_write_then (call : Call) (h : Writes b.onWork (calls.forM Writer.perform)) :
    Writes (do Behaviour.request (.write call); b : Behaviour ι Unit).onWork
      ((call :: calls).forM Writer.perform) := by
  rw [Behaviour.onWork_bind, Behaviour.onWork_request]
  exact (writes_write call).bind fun _ => h

/-- A report before calls. -/
theorem writes_notify_then (n : Notice) (h : Writes b.onWork (calls.forM Writer.perform)) :
    Writes (do Behaviour.request (.notify n); b : Behaviour ι Unit).onWork
      (calls.forM Writer.perform) := by
  rw [Behaviour.onWork_bind, Behaviour.onWork_request]
  exact (writes_note n).bind fun _ => h

theorem writes_request_write (call : Call) :
    Writes (Behaviour.request (.write call) : Behaviour ι Unit).onWork
      ([call].forM Writer.perform) := by
  rw [Behaviour.onWork_request]
  exact (congrArg _ (bind_pure (Writer.perform call))).mpr (writes_write call)

theorem writes_request_notify (n : Notice) :
    Writes (Behaviour.request (.notify n) : Behaviour ι Unit).onWork
      (([] : List Call).forM Writer.perform) := by
  rw [Behaviour.onWork_request]
  exact writes_note n

theorem writes_lift {β : Type} (r : Except Failure β) (f : β → Call) :
    Writes (do let b ← Behaviour.lift r; .request (.write (f b)) : Behaviour ι Unit).onWork (do
      let calls ← Step.lift (r.map fun b => [f b])
      calls.forM Writer.perform) := by
  cases r with
  | error e => exact .throw e
  | ok b => exact writes_request_write (f b)

end Work

namespace Handler

/-- Makes the calls of a handler, up to the first one that fails. -/
def perform (params : Params) (h : Handler) : Step Writer Unit := do
  let calls ← Step.lift (h.calls params)
  calls.forM Writer.perform

theorem writes_action {ι : Type} (params : Params) (h : Handler) :
    Work.Writes (h.action params : Behaviour ι Unit).onWork (h.perform params) := by
  cases h with
  | feedSpin =>
      refine Work.writes_write_then _ ?_
      rw [directionCalls]
      cases h : params.get "spin_direction" with
      | null => exact Work.writes_request_write _
      | _ =>
          simp only
          rw [← h]
          cases directionCode (params.get "spin_direction") with
          | ok code => exact Work.writes_write_then _ (Work.writes_request_write _)
          | error e => exact Work.writes_notify_then _ (Work.writes_request_write _)
  | rapidMove | line | absoluteMode | endOfFile => exact Work.writes_request_write _
  -- what is missing is reported, which is no call
  | machinePlane =>
      rw [action, plane, perform, calls]
      cases params.get "machine_plane" with
      | null => exact Work.writes_request_notify _
      | _ => exact Work.writes_request_write _
  | changeTool =>
      rw [action, tool, perform, calls]
      cases toolOf params with
      | null => exact Work.writes_request_notify _
      | _ => exact Work.writes_lift _ fun name => .verb (.changeTool name) false false
  | message => exact Work.writes_lift _ fun text => .comment (.text text) false

end Handler

/-- Makes the calls for an event, up to the first one that fails. -/
def Event.perform (e : Event) : Step Writer Unit := do
  let calls ← Step.lift (standardCalls e.name e.params)
  calls.forM Writer.perform

theorem Event.writes_onWork (e : Event) : Work.Writes e.onWork e.perform := by
  rw [onWork, perform, standardCalls]
  cases Handler.ofEvent? e.name with
  | none => exact .pure ()
  | some h => exact h.writes_action e.params

/-- **The processing of records** is seen on the writer as the calls for their events, one event
after the other. -/
theorem Program.writer_processed (c : Config) (records : List Trace.Record) :
    (records.map Trace.Record.event).forM Event.perform (Writer.start c) =
      ((processed c records).1, (processed c records).2.writer) := by
  have writes := Step.SeenAs.forM fun e (_ : e ∈ records.map Trace.Record.event) => e.writes_onWork
  have seen := writes.run (s := Work.start c) trivial
  rwa [work_processed] at seen

/-! ### Driving the writer -/

namespace Writer

variable {α β : Type} {kind : Call → Prop}

/-- The step makes calls of a kind one after the other, and does nothing else to the writer. -/
def Drives (kind : Call → Prop) (step : Step Writer α) : Prop :=
  ∀ w, ∃ calls, (∀ call ∈ calls, kind call) ∧ (step w).2 = w.runAll calls

theorem drives_lift (r : Except Failure α) : Drives kind (Step.lift r) :=
  fun _ => ⟨[], List.forall_mem_nil _, rfl⟩

theorem drives_perform {call : Call} (h : kind call) : Drives kind (perform call) :=
  fun _ => ⟨[call], List.forall_mem_singleton.mpr h, rfl⟩

theorem drives_bind {x : Step Writer α} {f : α → Step Writer β} (hx : Drives kind x)
    (hf : ∀ w a, (x w).1 = .ok a → Drives kind (f a)) : Drives kind (x >>= f) := by
  intro w
  rw [Step.run_bind]
  obtain ⟨calls, made, first⟩ := hx w
  cases result : (x w).1 with
  | error e => exact ⟨calls, made, first⟩
  | ok a =>
      obtain ⟨more, made', second⟩ := hf w a result (x w).2
      exact ⟨calls ++ more, List.forall_mem_append.mpr ⟨made, made'⟩,
        by rw [runAll_append, ← first]; exact second⟩

theorem drives_forM {xs : List α} {f : α → Step Writer Unit} (h : ∀ x ∈ xs, Drives kind (f x)) :
    Drives kind (xs.forM f) := by
  induction xs with
  | nil => exact fun _ => ⟨[], List.forall_mem_nil _, rfl⟩
  | cons x xs ih =>
      obtain ⟨first, others⟩ := List.forall_mem_cons.mp h
      exact drives_bind first fun _ _ _ => ih others

end Writer

/-- The calls for an event are of a kind. -/
def Event.MakesOnly (kind : Call → Prop) (e : Event) : Prop :=
  ∀ made, standardCalls e.name e.params = .ok made → ∀ call ∈ made, kind call

theorem Event.MakesOnly.drives {kind : Call → Prop} {e : Event} (h : e.MakesOnly kind) :
    Writer.Drives kind e.perform :=
  Writer.drives_bind (Writer.drives_lift _) fun _ made hm =>
    Writer.drives_forM fun call hc => Writer.drives_perform (h made hm call hc)

/-- **The processing of records** drives the writer by the calls for their events. -/
theorem Program.drives_processed (c : Config) {records : List Trace.Record} {kind : Call → Prop}
    (h : ∀ r ∈ records, r.event.MakesOnly kind) : ∃ calls, (∀ call ∈ calls, kind call) ∧
      (processed c records).2.writer = (Writer.start c).runAll calls := by
  have events : ∀ e ∈ records.map Trace.Record.event, Writer.Drives kind e.perform :=
    List.forall_mem_map.mpr fun r hr => (h r hr).drives
  have driven := Writer.drives_forM events (Writer.start c)
  rwa [writer_processed] at driven

end Postprocessor
