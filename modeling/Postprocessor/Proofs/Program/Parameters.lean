import Postprocessor.Proofs.Program.Dispatch
import Postprocessor.Proofs.Program.Listening

/-!
# Proofs — the table of events and the parameters of listeners

Events are loaded at the end of the table and stay as they are.  A dispatch gets parameters of its
own, which its listeners pass on from one to the next; what becomes of them is seen by nobody else.

* `Deed.loaded`, `events_doing`: the table after deeds.
* `Program.Delivers`: the dispatches of a processing, each with the parameters in the table.
* `Operation.IsDone`: the deeds of an operation; `isDone_perform` says that they are what it does.
* `Program.KeepsEvents`: at every moment of some deeds the table holds what was loaded until then.
* `keepsEvents_runAll`: so it is in every run.
-/

namespace Postprocessor

variable {ι : Type}

/-! ### The table of events -/

/-- The records whose events a deed loads. -/
def Deed.loaded : Deed ι → List Trace.Record
  | .load records => records
  | _ => []

/-- The parameters that the first listener of a dispatch is given, if there is one. -/
def Deed.handed? : List (Deed ι) → Option Params
  | .invoke _ params _ :: _ => some params
  | _ => none

namespace Program

variable [BEq ι] {p : Program ι} {behaviours : ι → Listener ι}

theorem events_step (d : Deed ι) (p : Program ι) :
    (d.step p).2.events.toList = p.events.toList ++ d.loaded.map Trace.Record.event := by
  cases d with
  | load records =>
      have loaded : (load records p).2.events =
          p.events ++ (records.map Trace.Record.event).toArray := rfl
      exact (congrArg Array.toList loaded).trans (by simp [Deed.loaded])
  | write call =>
      obtain ⟨journal, e⟩ := snd_write call p
      exact (congrArg (fun q => q.events.toList) e).trans (List.append_nil _).symm
  | invoke | on | off | notify | found => exact (List.append_nil _).symm

/-- The table after deeds: what was in it, and the events of the records that were loaded. -/
theorem events_doing (p : Program ι) (deeds : List (Deed ι)) :
    (p.doing deeds).events.toList =
      p.events.toList ++ (deeds.flatMap Deed.loaded).map Trace.Record.event := by
  induction deeds generalizing p with
  | nil => simp
  | cons d deeds ih =>
      rw [doing_cons, ih, events_step, List.append_assoc, List.flatMap_cons, List.map_append]

/-- Events stay where they are. -/
theorem events_kept {deeds : List (Deed ι)} {i : Nat} {e : Event} (h : p.events[i]? = some e) :
    (p.doing deeds).events[i]? = some e := by
  rw [← Array.getElem?_toList] at h ⊢
  rw [events_doing]
  obtain ⟨inside, -⟩ := List.getElem?_eq_some_iff.mp h
  rwa [List.getElem?_append_left inside]

/-- A record is loaded at the position that is the number of the events before it. -/
theorem events_loaded {records : List Trace.Record} {k : Nat} {r : Trace.Record}
    (h : records[k]? = some r) :
    (p.doing [.load records]).events[p.events.size + k]? = some r.event := by
  rw [← Array.getElem?_toList, events_doing, ← Array.length_toList,
    List.getElem?_append_right (Nat.le_add_right _ _), Nat.add_sub_cancel_left]
  simp [Deed.loaded, h]

/-! ### Processing -/

/-- The dispatches of the events of a sequence from a position on, up to the first that fails. Each
is given the parameters that its event has in the sequence. -/
inductive Delivers (behaviours : ι → Listener ι) (events : Array Event) :
    Nat → Program ι → Except Failure Unit → List (List (Deed ι)) → Prop where
  | done (p : Program ι) : Delivers behaviours events events.size p (.ok ()) []
  | next {i : Nat} {event : Event} {p : Program ι} {r : Except Failure Unit} {turn : List (Deed ι)}
      {turns : List (List (Deed ι))} (here : events[i]? = some event)
      (dispatched : Dispatched behaviours depthLimit event.name event.params (contextAt events i) p
        (.ok ()) turn)
      (rest : Delivers behaviours events (i + 1) (p.doing turn) r turns) :
      Delivers behaviours events i p r (turn :: turns)
  | failed {i : Nat} {event : Event} {p : Program ι} {e : Failure} {turn : List (Deed ι)}
      (here : events[i]? = some event)
      (dispatched : Dispatched behaviours depthLimit event.name event.params (contextAt events i) p
        (.error e) turn) :
      Delivers behaviours events i p (.error e) [turn]

theorem delivers_forM (behaviours : ι → Listener ι) (events : Array Event) (k : Nat) {i : Nat}
    (hk : i + k = events.size) (p : Program ι) :
    ∃ turns, Delivers behaviours events i p
        ((events.toList.zipIdx.drop i).forM (dispatchAt behaviours events) p).1 turns ∧
      ((events.toList.zipIdx.drop i).forM (dispatchAt behaviours events) p).2 =
        p.doing turns.flatten := by
  -- by induction on the number of events that are left
  induction k generalizing i p with
  | zero =>
      obtain rfl : i = events.size := hk
      have none : events.toList.zipIdx.drop events.size = [] := List.drop_of_length_le (by simp)
      rw [none]
      exact ⟨[], .done p, rfl⟩
  | succ k ih =>
      have hi : i < events.size := by omega
      have here : events[i]? = some events[i] := Array.getElem?_eq_getElem hi
      rw [drop_zipIdx events hi, List.forM, Step.run_bind]
      obtain ⟨turn, dispatched, hq⟩ := follows_dispatch behaviours depthLimit events[i].name
        events[i].params (contextAt events i) p
      change Dispatched _ _ _ _ _ _ (dispatchAt behaviours events (events[i], i) p).1 _ at dispatched
      change (dispatchAt behaviours events (events[i], i) p).2 = _ at hq
      rw [hq]
      cases hr : (dispatchAt behaviours events (events[i], i) p).1 with
      | error e =>
          rw [hr] at dispatched
          exact ⟨[turn], .failed here dispatched, by simp⟩
      | ok u =>
          rw [hr] at dispatched
          obtain ⟨turns, rest, hq'⟩ := ih (i := i + 1) (by omega) (p.doing turn)
          refine ⟨turn :: turns, .next here dispatched rest, ?_⟩
          rw [List.flatten_cons, doing_append]
          exact hq'

/-- The first listener of a dispatch is given the parameters of the dispatch. -/
theorem handed_of_dispatched {depth : Nat} {event : String} {params given : Params}
    {context : Context} {r : Except Failure Unit} {deeds : List (Deed ι)}
    (h : Dispatched behaviours depth event params context p r deeds)
    (hg : Deed.handed? deeds = some given) : given = params := by
  cases depth with
  | zero =>
      rw [h.2] at hg
      cases hg
  | succ depth =>
      rw [Dispatched] at h
      split at h
      · rw [h.2] at hg
        cases hg
      · obtain ⟨visits, heard, rfl⟩ := h
        cases visits with
        | nil => cases hg
        | cons v visits =>
            cases hg
            exact heard.hands.head

/-- Processing gives the first listener of an event the parameters that the event has in the
table. -/
theorem Delivers.handed {events : Array Event} {i j : Nat} {r : Except Failure Unit}
    {turns : List (List (Deed ι))} {params : Params} (h : Delivers behaviours events i p r turns)
    (hj : turns[j]?.bind Deed.handed? = some params) :
    ∃ e, events[i + j]? = some e ∧ params = e.params := by
  induction h generalizing j with
  | done p => cases hj
  | next here dispatched _ ih =>
      cases j with
      | zero => exact ⟨_, here, handed_of_dispatched dispatched hj⟩
      | succ j =>
          obtain ⟨event, he, hp⟩ := ih hj
          exact ⟨event, by rw [← he]; congr 1; omega, hp⟩
  | failed here dispatched =>
      cases j with
      | zero => exact ⟨_, here, handed_of_dispatched dispatched hj⟩
      | succ j => cases hj

/-! ### Operations -/

/-- What an operation does, from the program `p` on. -/
inductive Operation.IsDone (behaviours : ι → Listener ι) (p : Program ι) :
    Operation ι → List (Deed ι) → Prop where
  | write (call : Call) : IsDone behaviours p (.write call) [.write call]
  | load (records : List Trace.Record) : IsDone behaviours p (.load records) [.load records]
  | loadText (text : String) : IsDone behaviours p (.loadText text)
      [.notify (Trace.notice (Trace.records text).toList), .load (Trace.records text).toList]
  | on (event : String) (listener : ι) :
      IsDone behaviours p (.on event listener) [.on event listener]
  | off (event : String) (listener : ι) :
      IsDone behaviours p (.off event listener) [.off event listener]
  | trigger {event : String} {params : Params} {context : Context} {r : Except Failure Unit}
      {deeds : List (Deed ι)} (h : Dispatched behaviours depthLimit event params context p r deeds) :
      IsDone behaviours p (.trigger event params context) deeds
  /-- The event at a subscript is dispatched with the parameters that it has in the table. -/
  | triggerEvent {i : Int} {j : Nat} {e : Event} {context : Context} {r : Except Failure Unit}
      {deeds : List (Deed ι)} (hi : Search.subscript p.events.size i = .ok j)
      (he : p.events[j]? = some e)
      (h : Dispatched behaviours depthLimit e.name e.params context p r deeds) :
      IsDone behaviours p (.triggerEvent i context) deeds
  /-- There is no event at the subscript. -/
  | outside {i : Int} {e : Failure} {context : Context}
      (hi : Search.subscript p.events.size i = .error e) :
      IsDone behaviours p (.triggerEvent i context) []
  | process {turns : List (List (Deed ι))} (h : Delivers behaviours p.events 0 p (.ok ()) turns) :
      IsDone behaviours p .process
        (turns.flatten ++ [.notify ⟨.info, .events, s!"Processed {p.events.size} events"⟩])
  /-- One of the dispatches fails. -/
  | stopped {e : Failure} {turns : List (List (Deed ι))}
      (h : Delivers behaviours p.events 0 p (.error e) turns) :
      IsDone behaviours p .process turns.flatten
  | generate : IsDone behaviours p .generate [.write .flushAll]
  | generateFiles (h : p.writer.files.opened = none) :
      IsDone behaviours p .generateFiles [.write .flushAll]
  /-- A subprogram is still open, which is reported. -/
  | unfinished (h : p.writer.files.opened.isSome) : IsDone behaviours p .generateFiles
      [.notify ⟨.warning, .events, "Subprogram " ++ nameShown p.writer.files.current.name ++
        " still open at end of output"⟩, .write .flushAll]

theorem isDone_process (behaviours : ι → Listener ι) (p : Program ι) :
    ∃ deeds, Operation.IsDone behaviours p .process deeds ∧
      (process behaviours p).2 = p.doing deeds := by
  obtain ⟨turns, delivers, hq⟩ := delivers_forM behaviours p.events p.events.size (Nat.zero_add _) p
  rw [List.drop_zero] at delivers hq
  rw [process_eq, Step.run_bind, hq]
  cases hr : (p.events.toList.zipIdx.forM (dispatchAt behaviours p.events) p).1 with
  | ok u =>
      rw [hr] at delivers
      refine ⟨_, .process delivers, ?_⟩
      rw [doing_append]
      rfl
  | error e =>
      rw [hr] at delivers
      exact ⟨_, .stopped delivers, rfl⟩

omit [BEq ι] in
/-- A subscript stands for a position inside the sequence. -/
theorem subscript_lt {size j : Nat} {i : Int} (h : Search.subscript size i = .ok j) :
    j < size := by
  rw [Search.subscript] at h
  split at h
  · cases h
    omega
  · split at h
    · cases h
      omega
    · cases h

/-- The dispatch of the event at a subscript. -/
theorem isDone_triggerEvent (behaviours : ι → Listener ι) (i : Int) (context : Context)
    (p : Program ι) :
    ∃ deeds, Operation.IsDone behaviours p (.triggerEvent i context) deeds ∧
      (triggerEvent behaviours i context p).2 = p.doing deeds := by
  rw [triggerEvent, Step.bind_of_ok (Step.run_get p)]
  cases hi : Search.subscript p.events.size i with
  | error e => exact ⟨[], .outside hi, rfl⟩
  | ok j =>
      have inside := subscript_lt hi
      have found : p.events.getD j default = p.events[j] := by simp [inside]
      obtain ⟨deeds, dispatched, hq⟩ := follows_dispatch behaviours depthLimit p.events[j].name
        p.events[j].params context p
      refine ⟨deeds, .triggerEvent hi (Array.getElem?_eq_getElem inside) dispatched, ?_⟩
      rw [Step.bind_of_ok (Step.run_lift ..)]
      rw [← found] at hq
      exact hq

theorem isDone_generateFiles (behaviours : ι → Listener ι) (p : Program ι) :
    ∃ deeds, Operation.IsDone behaviours p .generateFiles deeds ∧
      (generateFiles p).2 = p.doing deeds := by
  rw [generateFiles, Step.bind_of_ok (Step.run_get p)]
  cases ho : p.writer.files.opened with
  | none => exact ⟨_, .generateFiles ho, Step.snd_bind (fun _ _ => rfl) (write .flushAll) p⟩
  | some name =>
      refine ⟨_, .unfinished (by rw [ho]; rfl), ?_⟩
      exact Step.snd_bind (fun _ _ => rfl) (write .flushAll) _

/-- **An operation does what is described.** -/
theorem isDone_perform (behaviours : ι → Listener ι) (operation : Operation ι) (p : Program ι) :
    ∃ deeds, operation.IsDone behaviours p deeds ∧
      (operation.perform behaviours p).2 = p.doing deeds := by
  cases operation with
  | write call => exact ⟨_, .write call, rfl⟩
  | load records => exact ⟨_, .load records, rfl⟩
  | loadText text => exact ⟨_, .loadText text, rfl⟩
  | on event listener => exact ⟨_, .on event listener, rfl⟩
  | off event listener => exact ⟨_, .off event listener, rfl⟩
  | trigger event params context =>
      obtain ⟨deeds, dispatched, hq⟩ := follows_dispatch behaviours depthLimit event params context p
      exact ⟨deeds, .trigger dispatched, hq⟩
  | triggerEvent i context => exact isDone_triggerEvent behaviours i context p
  | process => exact isDone_process behaviours p
  | generate =>
      refine ⟨_, .generate, (Step.snd_bind (fun _ _ => rfl) generate p).trans ?_⟩
      exact Step.snd_bind (fun _ _ => rfl) (write .flushAll) p
  | generateFiles =>
      obtain ⟨deeds, isDone, hq⟩ := isDone_generateFiles behaviours p
      exact ⟨deeds, isDone, (Step.snd_bind (fun _ _ => rfl) generateFiles p).trans hq⟩

/-! ### Runs -/

/-- What is kept at every moment of some deeds, which start from the program `p`, if the listeners
behave as given. -/
structure KeepsEvents (behaviours : ι → Listener ι) (p : Program ι) (deeds : List (Deed ι)) :
    Prop where
  /-- The table holds what it held at the start, and the events of the records loaded since. -/
  table : ∀ {done}, done <+: deeds → (p.doing done).events.toList =
    p.events.toList ++ (done.flatMap Deed.loaded).map Trace.Record.event
  /-- The position of an event that is loaded is the number of the events before it. -/
  positions : ∀ {before records after k r}, before ++ .load records :: after <+: deeds →
    records[k]? = some r →
    (p.doing (before ++ .load records :: after)).events[(p.doing before).events.size + k]? =
      some r.event
  /-- An event stays at its position, with its name and its parameters. -/
  kept : ∀ {before after} {i : Nat} {e : Event}, before ++ after <+: deeds →
    (p.doing before).events[i]? = some e → (p.doing (before ++ after)).events[i]? = some e
  /-- What a listener asks for, and the parameters that it leaves, depend on those that it is given,
  its context and whether its requests succeed: whatever the listeners of the dispatches that it
  starts make of the parameters that it passes on, it does the same. -/
  isolated : ∀ {l params context replies replies' left left'},
    (behaviours l params context).Converses replies left →
    (behaviours l params context).Converses replies' left' →
    replies.map Reply.answer = replies'.map Reply.answer →
    replies.map Reply.request = replies'.map Reply.request ∧ left = left'
  /-- Processing at a later moment gives the first listener of an event the same parameters. -/
  again : ∀ {before after r r' turns turns'}, before ++ after <+: deeds →
    Delivers behaviours (p.doing before).events 0 (p.doing before) r turns →
    Delivers behaviours (p.doing (before ++ after)).events 0 (p.doing (before ++ after)) r' turns' →
    ∀ {j : Nat} {params params' : Params}, turns[j]?.bind Deed.handed? = some params →
      turns'[j]?.bind Deed.handed? = some params' → params' = params

theorem keepsEvents (behaviours : ι → Listener ι) (p : Program ι) (deeds : List (Deed ι)) :
    KeepsEvents behaviours p deeds where
  table _ := events_doing p _
  positions := by
    intro before records after k r _ hr
    rw [List.append_cons, doing_append, doing_append]
    exact events_kept (events_loaded hr)
  kept := by
    intro before after i e _ he
    rw [doing_append]
    exact events_kept he
  isolated h h' same := h.determined h' same
  again := by
    intro before after r r' turns turns' _ first second j params params' hj hj'
    obtain ⟨e, he, rfl⟩ := first.handed hj
    obtain ⟨e', he', rfl⟩ := second.handed hj'
    rw [doing_append] at he'
    rw [Option.some.inj (he'.symm.trans (events_kept he))]

theorem isDone_runAll (behaviours : ι → Listener ι) (p : Program ι)
    (operations : List (Operation ι)) :
    ∃ parts : List (Operation ι × List (Deed ι)), parts.map Prod.fst = operations ∧
      p.Successively Prod.snd (fun p part => part.1.IsDone behaviours p part.2) parts ∧
      p.runAll behaviours operations = p.doing (parts.flatMap Prod.snd) := by
  induction operations generalizing p with
  | nil => exact ⟨[], rfl, trivial, rfl⟩
  | cons operation operations ih =>
      obtain ⟨deeds, isDone, hq⟩ := isDone_perform behaviours operation p
      obtain ⟨parts, rfl, areDone, hq'⟩ := ih (p.doing deeds)
      refine ⟨(operation, deeds) :: parts, rfl, ⟨isDone, areDone⟩, ?_⟩
      rw [List.flatMap_cons, doing_append, ← hq', ← hq]
      rfl

-- the first listener of `A` assigns and passes its parameters on to that of `B`, which assigns too
example (w : Writer) : ((start w).runAll (fun l params context => match l with
      | 0 => do
        let assigned := Fields.put params "x" (.int 1)
        .request (.trigger "B" assigned context)
        return assigned
      | 1 => return Fields.put params "x" (.int 2)
      | _ => return params)
    [.load [⟨"A", 0, [("x", .int 0)]⟩], .on "A" 0, .on "A" 2, .on "B" 1, .process,
      .process]).journal.toList.filterMap
      (fun | .invoked l params _ => some (l, params) | _ => none) =
    [(0, [("x", .int 0)]), (1, [("x", .int 1)]), (2, [("x", .int 1)]),
      (0, [("x", .int 0)]), (1, [("x", .int 1)]), (2, [("x", .int 1)])] := by cbv

end Program

end Postprocessor
