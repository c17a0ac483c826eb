import Postprocessor.Proofs.Program.Changes

/-!
# Proofs — the processing of events

Processing dispatches the events that are loaded when it starts, one after the other, up to the
first dispatch that fails.  Listeners may load more events and change the registry meanwhile, and
start dispatches of their own, but the events to be dispatched and the context of each are those of
the start.

* `contextAt`, `Context.IsAt`: the context of an event of a sequence, and what can be looked up in
  it.
* `Behaviour.FailsIn`: where a behaviour fails; `failsIn_of_dispatch` says that a dispatch fails
  where one of its listeners does.
* `Program.Turn`: the dispatch of one event of a sequence.
* `Program.Turns`: the dispatches of a sequence, in order, up to the first that fails.
* `process_turns`: processing is the dispatches of the events that are loaded when it starts.
-/

namespace Postprocessor

variable {ι α : Type}

/-! ### Contexts -/

/-- The context of the event at a position of a sequence. -/
def contextAt (events : Array Event) (i : Nat) : Context := ⟨events, some i⟩

/-- What can be looked up in the context of the event at a position: that event and its neighbours,
and others by their names, all in the same sequence. -/
structure Context.IsAt (events : Array Event) (i : Nat) (c : Context) : Prop where
  sequence : c.events = events
  here : c.find .here = .ok (some i)
  previous : c.find .previous = .ok (if i = 0 then none else some (i - 1))
  next : c.find .next = .ok (if i + 1 = events.size then none else some (i + 1))
  nearest : ∀ name,
    c.find (.nearest name) = Search.nearest (events.toList.map Event.name) (some i) name
  last : ∀ name, c.find (.last name) = Search.last (events.toList.map Event.name) (some i) name
  nthNext : ∀ name n,
    c.find (.nthNext name n) = Search.nthNext (events.toList.map Event.name) (some i) name n
  nthPrevious : ∀ name n,
    c.find (.nthPrevious name n) = Search.nthPrevious (events.toList.map Event.name) (some i) name n

theorem isAt_contextAt {events : Array Event} {i : Nat} (h : i < events.size) :
    (contextAt events i).IsAt events i where
  sequence := rfl
  here := by simp [contextAt, Context.find, Search.here, h]
  previous := by
    show Search.previous events.size (some i) = _
    rw [Search.previous]
    by_cases hi : i = 0
    · simp [hi]
    · have inside : 0 ≤ (i : Int) - 1 ∧ (i : Int) - 1 < events.size := by omega
      rw [if_neg (by omega), if_neg hi, Search.subscript, if_pos inside]
      exact congrArg (fun j => Except.ok (some j)) (by omega)
  next := by
    show Search.next events.size (some i) = _
    rw [Search.next]
    by_cases hi : i + 1 = events.size
    · rw [if_pos (by omega), if_pos hi]
    · have inside : 0 ≤ (i : Int) + 1 ∧ (i : Int) + 1 < events.size := by omega
      rw [if_neg (by omega), if_neg hi, Search.subscript, if_pos inside]
      exact congrArg (fun j => Except.ok (some j)) (by omega)
  nearest _ := rfl
  last _ := rfl
  nthNext _ _ := rfl
  nthPrevious _ _ := rfl

variable [BEq ι]

/-! ### Failures -/

/-- The behaviour, run from the first program, fails with `e` when it has come to the second. -/
inductive Behaviour.FailsIn (trigger : Program.Trigger ι) :
    Behaviour ι α → Program ι → Failure → Program ι → Prop where
  | fail (e : Failure) (p : Program ι) : FailsIn trigger (.fail e) p e p
  /-- The request is answered, and what follows on the answer fails. -/
  | ask {request : Request ι} {next : Except Failure Unit → Behaviour ι α} {p q : Program ι}
      {e : Failure}
      (rest : FailsIn trigger (next (Program.answer trigger request p).1)
        (Program.answer trigger request p).2 e q) :
      FailsIn trigger (.ask request next) p e q

namespace Program

variable {behaviours : ι → Listener ι} {p q : Program ι} {e : Failure}

/-- The program in which a listener starts. -/
def invoking (p : Program ι) (l : ι) (params : Params) (context : Context) : Program ι :=
  { p with journal := p.journal.push (.invoked l params context) }

section Failures

variable {trigger : Trigger ι}

theorem runBehaviour_ask (request : Request ι) (next : Except Failure Unit → Behaviour ι α)
    (p : Program ι) :
    runBehaviour trigger (.ask request next) p =
      runBehaviour trigger (next (answer trigger request p).1) (answer trigger request p).2 := rfl

/-- A behaviour that fails does so where its run ends. -/
theorem failsIn_of_runBehaviour {b : Behaviour ι α}
    (h : runBehaviour trigger b p = (.error e, q)) : b.FailsIn trigger p e q := by
  induction b generalizing p with
  | done a => cases h
  | fail e' =>
      cases h
      exact .fail e q
  | ask request next ih =>
      rw [runBehaviour_ask] at h
      exact .ask (ih _ h)

theorem runListeners_cons (context : Context) (l : ι) (ls : List ι) (params : Params)
    (p : Program ι) :
    runListeners behaviours trigger context (l :: ls) params p =
      (runBehaviour trigger (behaviours l params context) >>=
        runListeners behaviours trigger context ls) (p.invoking l params context) := rfl

/-- Listeners fail where one of them does. -/
theorem failsIn_of_runListeners
    (evolves : ∀ event params context, Evolves (trigger event params context)) {context : Context}
    {ls : List ι} {params : Params}
    (h : runListeners behaviours trigger context ls params p = (.error e, q)) :
    ∃ l ∈ ls, ∃ params p', p.Reaches p' ∧
      (behaviours l params context).FailsIn trigger (p'.invoking l params context) e q := by
  induction ls generalizing params p with
  | nil => cases h
  | cons l ls ih =>
      rw [runListeners_cons, Step.run_bind] at h
      have invoked : p.Reaches (p.invoking l params context) := .single (.record _)
      have reached := invoked.trans (evolves_runBehaviour evolves (behaviours l params context) _)
      split at h
      -- a listener that succeeds leaves the failure to those after it
      · obtain ⟨l', mem, params', p', hp', fails⟩ := ih h
        exact ⟨l', List.mem_cons_of_mem l mem, params', p', reached.trans hp', fails⟩
      · next failed =>
        cases h
        exact ⟨l, List.mem_cons_self .., params, p, .refl,
          failsIn_of_runBehaviour (eq_mk_of_fst failed)⟩

theorem dispatch_succ (depth : Nat) (event : String) (params : Params) (context : Context)
    (p : Program ι) :
    dispatch behaviours (depth + 1) event params context p =
      if (p.registry.listeners event).isEmpty then
        notify .debug .events ("No listeners for " ++ event) p
      else runListeners behaviours (dispatch behaviours depth) context
        (p.registry.listeners event) params p := by
  rw [dispatch, Step.bind_of_ok (Step.run_get p)]
  split <;> rfl

/-- **A dispatch fails where one of its listeners does**, with the same failure. -/
theorem failsIn_of_dispatch {depth : Nat} {event : String} {params : Params} {context : Context}
    (h : dispatch behaviours (depth + 1) event params context p = (.error e, q)) :
    ∃ l ∈ p.registry.listeners event, ∃ params p', p.Reaches p' ∧
      (behaviours l params context).FailsIn (dispatch behaviours depth)
        (p'.invoking l params context) e q := by
  rw [dispatch_succ] at h
  split at h
  · cases h
  · exact failsIn_of_runListeners (evolves_dispatch behaviours depth) h

end Failures

/-- What the journal says of a dispatch first: the listener that is run first, or that there is
none. -/
def opening (p : Program ι) (event : String) (params : Params) (context : Context) : Entry ι :=
  match p.registry.listeners event with
  | [] => .notified ⟨.debug, .events, "No listeners for " ++ event⟩
  | l :: _ => .invoked l params context

theorem opening_dispatch (behaviours : ι → Listener ι) (p : Program ι) (depth : Nat)
    (event : String) (params : Params) (context : Context) :
    (p.journal.push (p.opening event params context)).toList <+:
      (dispatch behaviours (depth + 1) event params context p).2.journal.toList := by
  rw [dispatch_succ, opening]
  cases p.registry.listeners event with
  | nil => exact List.prefix_refl _
  | cons l ls =>
      -- what the listeners do after that comes behind it in the journal
      have inner := evolves_dispatch behaviours depth
      have rest : Evolves
          (runBehaviour (dispatch behaviours depth) (behaviours l params context) >>=
            runListeners behaviours (dispatch behaviours depth) context ls) :=
        evolves_bind (evolves_runBehaviour inner _) fun params =>
          evolves_runListeners behaviours inner context ls params
      exact (rest (p.invoking l params context)).journal

/-! ### Turns -/

/-- The dispatch of the event at a position of a sequence: from `p` it comes to `q` and ends
with `r`. -/
structure Turn (behaviours : ι → Listener ι) (events : Array Event) (i : Fin events.size)
    (p : Program ι) (r : Except Failure Unit) (q : Program ι) : Prop where
  /-- The event is dispatched under its own name, with its own parameters and in its context. -/
  dispatched : trigger behaviours events[i].name events[i].params (contextAt events i) p = (r, q)
  context : (contextAt events i).IsAt events i
  /-- The first listener of the event hears of it in this way. -/
  heard :
    (p.journal.push (p.opening events[i].name events[i].params (contextAt events i))).toList <+:
      q.journal.toList
  /-- The events are still loaded, others at most came after them. -/
  kept : events.toList <+: p.events.toList
  /-- If the dispatch fails, a listener of the event has failed, and nothing was done since. -/
  raised : ∀ e, r = .error e → ∃ l ∈ p.registry.listeners events[i].name, ∃ params p',
    p.Reaches p' ∧ (behaviours l params (contextAt events i)).FailsIn
      (dispatch behaviours (depthLimit - 1)) (p'.invoking l params (contextAt events i)) e q

/-- The dispatches of a sequence from a position on, in order, each once, up to the first one that
fails: from `p` they come to `q` and end with `r`. -/
inductive Turns (behaviours : ι → Listener ι) (events : Array Event) :
    Nat → Program ι → Except Failure Unit → Program ι → Prop where
  | done (p : Program ι) : Turns behaviours events events.size p (.ok ()) p
  | next {i : Fin events.size} {p q q' : Program ι} {r : Except Failure Unit}
      (turn : Turn behaviours events i p (.ok ()) q)
      (rest : Turns behaviours events (i + 1) q r q') : Turns behaviours events i p r q'
  | failed {i : Fin events.size} {p q : Program ι} {e : Failure}
      (turn : Turn behaviours events i p (.error e) q) : Turns behaviours events i p (.error e) q

/-- A dispatch from outside nests at most `depthLimit` deep. -/
theorem trigger_eq (behaviours : ι → Listener ι) :
    trigger behaviours = dispatch behaviours (depthLimit - 1 + 1) := rfl

theorem turn_trigger {events : Array Event} (i : Fin events.size)
    (kept : events.toList <+: p.events.toList) {r : Except Failure Unit}
    (h : trigger behaviours events[i].name events[i].params (contextAt events i) p = (r, q)) :
    Turn behaviours events i p r q := by
  have dispatched := h
  rw [trigger_eq] at h
  refine ⟨dispatched, isAt_contextAt i.isLt, ?_, kept, fun e he => ?_⟩
  · have heard := opening_dispatch behaviours p (depthLimit - 1) events[i].name events[i].params
      (contextAt events i)
    rwa [h] at heard
  · rw [he] at h
    exact failsIn_of_dispatch h

/-- The dispatch of an event and its position in a sequence. -/
def dispatchAt (behaviours : ι → Listener ι) (events : Array Event) (x : Event × Nat) :
    Step (Program ι) Unit :=
  trigger behaviours x.1.name x.1.params (contextAt events x.2)

theorem process_eq (behaviours : ι → Listener ι) (p : Program ι) :
    process behaviours p = (do
      p.events.toList.zipIdx.forM (dispatchAt behaviours p.events)
      notify .info .events s!"Processed {p.events.size} events") p := by
  rw [process, Step.bind_of_ok (Step.run_get p)]
  rfl

theorem drop_zipIdx (events : Array Event) {i : Nat} (hi : i < events.size) :
    events.toList.zipIdx.drop i = (events[i], i) :: events.toList.zipIdx.drop (i + 1) := by
  rw [List.drop_eq_getElem_cons (by simpa using hi)]
  simp

/-- Dispatching the events of a sequence from a position on. -/
theorem turns_forM (events : Array Event) (k : Nat) {i : Nat} (hk : i + k = events.size)
    (kept : events.toList <+: p.events.toList) {r : Except Failure Unit}
    (h : (events.toList.zipIdx.drop i).forM (dispatchAt behaviours events) p = (r, q)) :
    Turns behaviours events i p r q := by
  -- by induction on the number of events that are left; no turn takes an event away
  induction k generalizing i p with
  | zero =>
      obtain rfl : i = events.size := hk
      have none : events.toList.zipIdx.drop events.size = [] := List.drop_of_length_le (by simp)
      rw [none] at h
      cases h
      exact .done _
  | succ k ih =>
      have hi : i < events.size := by omega
      rw [drop_zipIdx events hi, List.forM, Step.run_bind] at h
      have evolved : p.Reaches (dispatchAt behaviours events (events[i], i) p).2 :=
        evolves_trigger behaviours ..
      rcases run : dispatchAt behaviours events (events[i], i) p with ⟨e | u, p'⟩ <;>
        rw [run] at h evolved
      · cases h
        exact .failed (i := ⟨i, hi⟩) (turn_trigger ⟨i, hi⟩ kept run)
      · have rest := ih (i := i + 1) (by omega) (kept.trans evolved.events) h
        exact .next (i := ⟨i, hi⟩) (turn_trigger ⟨i, hi⟩ kept run) rest

/-- **Processing dispatches a snapshot**: the events that are loaded when it starts, in order and
each once, up to the first dispatch that fails.  Then it fails with the same failure, and the
program is left as it was when that failure came up; if no dispatch fails, it reports the number of
events. -/
theorem process_turns (behaviours : ι → Listener ι) (p : Program ι) :
    ∃ r q, Turns behaviours p.events 0 p r q ∧
      process behaviours p = match r with
        | .ok _ => notify .info .events s!"Processed {p.events.size} events" q
        | .error e => (.error e, q) := by
  rcases h : p.events.toList.zipIdx.forM (dispatchAt behaviours p.events) p with ⟨r, q⟩
  refine ⟨r, q, turns_forM p.events p.events.size (Nat.zero_add _) (List.prefix_refl _) h, ?_⟩
  rw [process_eq, Step.run_bind, h]
  cases r <;> rfl

end Program

end Postprocessor
