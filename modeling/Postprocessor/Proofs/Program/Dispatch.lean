import Postprocessor.Program.PostProcessing
import Postprocessor.Proofs.Program.Changes

/-!
# Proofs — what the standard handlers do

A standard handler makes a few calls of the writer, which depend on the parameters of its event
alone, and may report something.  A dispatch makes the calls of the handler of the event, and the
processing of events makes theirs one after the other.

* `Program.Makes`: a step that makes calls and changes nothing but the writer and the journal; steps
  in a row make their calls in a row (`makes_bind`, `makes_forM`).
* `Handler.calls`, `makes_action`: the calls of a handler.
* `Event.calls`, `makes_dispatch`: the calls for an event.
* `Program.processFirst`, `makes_processFirst`: the calls for the first events that are loaded.
-/

namespace Postprocessor

namespace Program

variable {ι α β : Type} {r : Registry ι}

/-! ### Steps that make calls -/

/-- In a program with the listeners `r` the step makes the calls, if they all succeed, and yields
`a`.  Nothing but the writer and the journal changes. -/
def Makes (r : Registry ι) (step : Step (Program ι) α) (calls : List Call) (a : α) : Prop :=
  ∀ p : Program ι, p.registry = r → p.writer.Accepts calls → ∃ journal,
    step p = (.ok a, { p with writer := p.writer.runAll calls, journal := journal })

theorem makes_pure (a : α) : Makes r (pure a) [] a := fun p _ _ => ⟨p.journal, rfl⟩

theorem makes_record (e : Entry ι) : Makes r (record e) [] () :=
  fun p _ _ => ⟨p.journal.push e, rfl⟩

theorem makes_bind {x : Step (Program ι) α} {f : α → Step (Program ι) β} {us vs : List Call} {a : α}
    {b : β} (hx : Makes r x us a) (hf : Makes r (f a) vs b) : Makes r (x >>= f) (us ++ vs) b := by
  intro p hr hw
  obtain ⟨hus, hvs⟩ := Writer.accepts_append.mp hw
  obtain ⟨journal, first⟩ := hx p hr hus
  obtain ⟨journal', second⟩ :=
    hf { p with writer := p.writer.runAll us, journal := journal } hr hvs
  refine ⟨journal', ?_⟩
  rw [Step.bind_of_ok first, second, Writer.runAll_append]

theorem makes_get {f : Program ι → Step (Program ι) β} {calls : List Call} {b : β}
    (h : ∀ p, p.registry = r → Makes r (f p) calls b) : Makes r (get >>= f) calls b := by
  intro p hr hw
  rw [Step.bind_of_ok (Step.run_get p)]
  exact h p hr p hr hw

theorem makes_write (call : Call) : Makes r (write call) [call] () := by
  intro p _ hw
  rw [run_write, hw.1]
  exact ⟨_, rfl⟩

theorem makes_forM {xs : List β} {f : β → Step (Program ι) Unit} {g : β → List Call}
    (h : ∀ x ∈ xs, Makes r (f x) (g x) ()) : Makes r (xs.forM f) (xs.flatMap g) () := by
  induction xs with
  | nil => exact makes_pure ()
  | cons x xs ih =>
      have rest := ih fun y hy => h y (List.mem_cons_of_mem _ hy)
      exact makes_bind (h x (List.mem_cons_self ..)) rest

/-! ### Behaviours -/

variable [BEq ι] (trigger : Trigger ι)

theorem runBehaviour_bind (x : Behaviour ι α) (f : α → Behaviour ι β) :
    runBehaviour trigger (x >>= f) =
      runBehaviour trigger x >>= fun a => runBehaviour trigger (f a) := by
  induction x with
  | done a => rfl
  | fail e => rfl
  | ask request more ih =>
      show (do
          let o ← observe (answer trigger request)
          runBehaviour trigger ((more o).bind f)) = _
      rw [runBehaviour, bind_assoc]
      exact congrArg _ (funext ih)

theorem runBehaviour_request (request : Request ι) :
    runBehaviour trigger (.request request) = answer trigger request := by
  funext p
  rw [Behaviour.request, runBehaviour, Step.run_bind]
  rcases h : answer trigger request p with ⟨e | u, p'⟩ <;> simp [observe, h, runBehaviour]

theorem makes_behaviour_bind {x : Behaviour ι α} {f : α → Behaviour ι β} {us vs : List Call} {a : α}
    {b : β} (hx : Makes r (runBehaviour trigger x) us a)
    (hf : Makes r (runBehaviour trigger (f a)) vs b) :
    Makes r (runBehaviour trigger (x >>= f)) (us ++ vs) b := by
  rw [runBehaviour_bind]
  exact makes_bind hx hf

theorem makes_request_write (call : Call) :
    Makes r (runBehaviour trigger (.request (.write call))) [call] () := by
  rw [runBehaviour_request]
  exact makes_write call

theorem makes_request_notify (notice : Notice) :
    Makes r (runBehaviour trigger (.request (.notify notice))) [] () := by
  rw [runBehaviour_request]
  exact makes_record (.notified notice)

end Program

/-! ### Handlers -/

namespace Handler

/-- The setting of the spindle direction, if the event gives one. -/
def directionCalls (params : Params) : List Call :=
  match directionCode (params.get "spin_direction") with
  | .ok _ => [.verb (.set (.direction (params.get "spin_direction"))) false true]
  | .error _ => []

/-- The calls of a handler, unless it fails before the first one. -/
def calls (params : Params) : Handler → Except Failure (List Call)
  | .feedSpin =>
    .ok (.verb (.set (.speed (params.get "spin"))) false true :: directionCalls params ++ [.flush])
  | .rapidMove => .ok [.verb (.rapid (target params)) false false]
  | .line => .ok [.verb (.line (target params) (params.get "feed")) false false]
  | .absoluteMode => .ok [.verb (.set (.mode .positioning (.int 90))) false false]
  | .machinePlane =>
    match params.get "machine_plane" with
    | .null => .ok []
    | p => .ok [.verb (.set (.plane p)) false false]
  | .changeTool =>
    match toolOf params with
    | .null => .ok []
    | tool => (toolName tool).map fun name => [.verb (.changeTool name) false false]
  | .message =>
    ((params.lookup "message").getD (.text "")).written.map fun text =>
      [.comment (.text text) false]
  | .endOfFile => .ok [.put (.text "M30") true]

variable {r : Registry Handler} (trigger : Program.Trigger Handler)

theorem makes_spin (params : Params) :
    Program.Makes r (Program.runBehaviour trigger (spin params))
      ([.verb (.set (.speed (params.get "spin"))) false true] ++
        (directionCalls params ++ [.flush])) () := by
  refine Program.makes_behaviour_bind trigger (Program.makes_request_write trigger _) ?_
  rw [directionCalls]
  cases h : params.get "spin_direction" with
  | null => exact Program.makes_request_write trigger _
  | _ =>
      simp only
      rw [← h]
      cases directionCode (params.get "spin_direction") with
      | ok code =>
          exact Program.makes_behaviour_bind trigger (Program.makes_request_write trigger _)
            (Program.makes_request_write trigger _)
      | error e =>
          exact Program.makes_behaviour_bind trigger (Program.makes_request_notify trigger _)
            (Program.makes_request_write trigger _)

/-- **A handler** makes its calls. -/
theorem makes_action {h : Handler} {params : Params} {made : List Call}
    (hc : h.calls params = .ok made) :
    Program.Makes r (Program.runBehaviour trigger (h.action params)) made () := by
  cases h with
  | feedSpin =>
      cases hc
      exact makes_spin trigger params
  | rapidMove | line | absoluteMode | endOfFile =>
      cases hc
      exact Program.makes_request_write trigger _
  -- what is missing is reported, which is no call
  | machinePlane =>
      rw [action, plane]
      rw [calls] at hc
      cases hp : params.get "machine_plane" <;> rw [hp] at hc <;> cases hc
      · exact Program.makes_request_notify trigger _
      all_goals exact Program.makes_request_write trigger _
  | changeTool =>
      rw [action, tool]
      rw [calls] at hc
      cases hp : toolOf params <;> rw [hp] at hc
      case null =>
        cases hc
        exact Program.makes_request_notify trigger _
      all_goals
        obtain ⟨name, hn, rfl⟩ := map_eq_ok hc
        simp only [hn]
        exact Program.makes_request_write trigger _
  | message =>
      obtain ⟨text, ht, rfl⟩ := map_eq_ok hc
      rw [action, comment, ht]
      exact Program.makes_request_write trigger _

/-! ### Dispatch -/

/-- The listeners of a program with the standard handlers only. -/
def registry : Registry Handler := all.map fun h => (h.event, [h])

/-- The handler of the events of a name. -/
def ofEvent? (name : String) : Option Handler := all.find? fun h => name == h.event

theorem listeners_registry (name : String) :
    registry.listeners name = (ofEvent? name).toList := by
  -- by induction on any list of handlers, as `all` is no case of its own
  have key : ∀ hs : List Handler,
      Registry.listeners (hs.map fun h => (h.event, [h])) name =
        (hs.find? fun h => name == h.event).toList := by
    intro hs
    induction hs with
    | nil => rfl
    | cons h hs ih =>
        by_cases he : name = h.event
        · simp [Registry.listeners, he]
        · have he' : (name == h.event) = false := by simpa using he
          rw [List.find?_cons_of_neg (by simpa using he), ← ih, Registry.listeners, List.map_cons,
            List.lookup_cons, he']
          rfl
  exact key all

theorem addStandard_eq (w : Writer) : ∃ journal,
    Program.addStandard id (Program.start w) = (.ok (), ⟨w, #[], registry, journal⟩) := by
  exact ⟨_, rfl⟩

end Handler

/-- A record as it is loaded. -/
def Trace.Record.event (r : Trace.Record) : Event := ⟨r.name, r.params⟩

/-- The calls for an event of the standard handlers, unless its handler fails before the first
one. -/
def standardCalls (name : String) (params : Params) : Except Failure (List Call) :=
  match Handler.ofEvent? name with
  | some h => h.calls params
  | none => .ok []

/-- The calls for an event, none if its handler fails before the first one. -/
def Event.calls (e : Event) : List Call := (standardCalls e.name e.params).toOption.getD []

namespace Program

/-- **A dispatch** makes the calls for its event. -/
theorem makes_dispatch (depth : Nat) {name : String} {params : Params} {made : List Call}
    (hc : standardCalls name params = .ok made) (context : Context) :
    Makes Handler.registry (dispatch Handler.listener (depth + 1) name params context) made () := by
  refine makes_get fun p hp => ?_
  rw [hp, Handler.listeners_registry]
  rw [standardCalls] at hc
  cases hh : Handler.ofEvent? name with
  | none =>
      rw [hh] at hc
      cases hc
      exact makes_record _
  | some h =>
      rw [hh] at hc
      have action :=
        Handler.makes_action (r := Handler.registry) (dispatch Handler.listener depth) hc
      have listener : Makes Handler.registry (runBehaviour (dispatch Handler.listener depth)
          (h.listener params context)) (made ++ []) params :=
        makes_behaviour_bind _ action (makes_pure params)
      have run : Makes Handler.registry (runBehaviour (dispatch Handler.listener depth)
          (h.listener params context) >>= runListeners Handler.listener
            (dispatch Handler.listener depth) context []) ((made ++ []) ++ []) () :=
        makes_bind listener (makes_pure ())
      rw [List.append_nil, List.append_nil] at run
      exact makes_bind (makes_record (.invoked h params context)) run

/-- Loading adds the events of the records. -/
theorem load_eq (records : List Trace.Record) (p : Program Handler) : ∃ journal,
    load records p = (.ok (), { p with
      events := p.events ++ (records.map Trace.Record.event).toArray, journal := journal }) :=
  ⟨_, rfl⟩

/-- Dispatches the first `n` of the events that are loaded at this moment, in order. -/
def processFirst {ι : Type} [BEq ι] (behaviours : ι → Listener ι) (n : Nat) :
    Step (Program ι) Unit := do
  let events := (← get).events
  (events.toList.zipIdx.take n).forM fun (event, i) =>
    trigger behaviours event.name event.params ⟨events, some i⟩

/-- **The processing of events** makes the calls for them, one event after the other. -/
theorem makes_processFirst {p : Program Handler} (hr : p.registry = Handler.registry)
    (hc : ∀ e ∈ p.events.toList, standardCalls e.name e.params = .ok e.calls) (n : Nat)
    (ha : p.writer.Accepts ((p.events.toList.take n).flatMap Event.calls)) : ∃ journal,
    processFirst Handler.listener n p = (.ok (), { p with
      writer := p.writer.runAll ((p.events.toList.take n).flatMap Event.calls)
      journal := journal }) := by
  have each : Makes Handler.registry ((p.events.toList.zipIdx.take n).forM fun (event, i) =>
      trigger Handler.listener event.name event.params ⟨p.events, some i⟩)
      ((p.events.toList.zipIdx.take n).flatMap fun x => x.1.calls) () := by
    refine makes_forM fun x hx => ?_
    have mem : x.1 ∈ p.events.toList := List.fst_mem_of_mem_zipIdx (List.mem_of_mem_take hx)
    exact makes_dispatch _ (hc x.1 mem) _
  have names : (p.events.toList.zipIdx.take n).flatMap (fun x => x.1.calls) =
      (p.events.toList.take n).flatMap Event.calls := by
    rw [← List.flatMap_map, List.map_take, List.zipIdx_map_fst]
  rw [names] at each
  exact each p hr ha

/-- Processing is the processing of all events, and a report. -/
theorem process_of_processFirst {p q : Program Handler}
    (h : processFirst Handler.listener p.events.size p = (.ok (), q)) : ∃ journal,
    process Handler.listener p = (.ok (), { q with journal := journal }) := by
  have all : p.events.toList.zipIdx.take p.events.size = p.events.toList.zipIdx :=
    List.take_of_length_le (by simp)
  have same : process Handler.listener p = (do
      processFirst Handler.listener p.events.size
      notify .info .events s!"Processed {p.events.size} events") p := by
    rw [process, processFirst, bind_assoc, Step.bind_of_ok (Step.run_get p),
      Step.bind_of_ok (Step.run_get p)]
    simp only [all]
  rw [same, Step.bind_of_ok h]
  exact ⟨_, rfl⟩

end Program

end Postprocessor
