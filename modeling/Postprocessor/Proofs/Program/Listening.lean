import Postprocessor.Proofs.Program.Processing

/-!
# Proofs — what a dispatch does

A dispatch runs the listeners that its event has when it starts.  Listeners may change the registry
meanwhile, start dispatches of their own, which nest to any depth, and fail.

* `Deed`, `Program.doing`: what a program does step by step, listeners unfolded; `listeners_doing`
  says what becomes of the listeners of an event.
* `Reply`, `Visit`: a request of a listener with its answer, and one run of a listener.
* `Behaviour.Converses`: a behaviour makes the requests of some replies and ends with a result.
* `Hands`, `Program.Heard`: the runs of a list of listeners, the parameters that they pass on, and
  what a failure among them does.
* `Program.Dispatched`: a dispatch and its deeds, with the dispatches in it; `follows_dispatch` says
  that dispatches are so.
* `dispatch_runs_snapshot`: the same with what becomes of the listeners of every event.
-/

namespace Postprocessor

variable {ι α : Type}

/-! ### Deeds -/

/-- What a program does in one step. -/
inductive Deed (ι : Type) where
  /-- A listener starts. -/
  | invoke (listener : ι) (params : Params) (context : Context)
  | write (call : Call)
  | load (records : List Trace.Record)
  | on (event : String) (listener : ι)
  | off (event : String) (listener : ι)
  | notify (notice : Notice)
  | found (position : Option Nat)

/-- The deed that a request asks for, unless it asks for a dispatch. -/
def Request.deed? : Request ι → Option (Deed ι)
  | .write call => some (.write call)
  | .trigger .. => none
  | .on event listener => some (.on event listener)
  | .off event listener => some (.off event listener)
  | .load records => some (.load records)
  | .notify notice => some (.notify notice)
  | .found position => some (.found position)

section

variable [BEq ι]

namespace Deed

/-- Does a deed. -/
def step : Deed ι → Step (Program ι) Unit
  | .invoke listener params context => Program.record (.invoked listener params context)
  | .write call => Program.write call
  | .load records => Program.load records
  | .on event listener => Program.on event listener
  | .off event listener => Program.off event listener
  | .notify notice => Program.record (.notified notice)
  | .found position => Program.record (.found position)

/-- The listeners of an event after a deed, from those before it.  A listener is added at the end;
one that is taken away leaves wherever it stands, and the others keep their order. -/
def relist (event : String) (ls : List ι) : Deed ι → List ι
  | .on other l => if event = other then ls ++ [l] else ls
  | .off other l => if event = other then ls.filter fun x => !(x == l) else ls
  | _ => ls

end Deed

namespace Program

variable {p : Program ι}

/-- The program after deeds. -/
def doing (p : Program ι) (deeds : List (Deed ι)) : Program ι :=
  deeds.foldl (fun p d => (d.step p).2) p

@[simp] theorem doing_nil (p : Program ι) : p.doing [] = p := rfl

@[simp] theorem doing_cons (p : Program ι) (d : Deed ι) (deeds : List (Deed ι)) :
    p.doing (d :: deeds) = (d.step p).2.doing deeds := rfl

@[simp] theorem doing_append (p : Program ι) (deeds deeds' : List (Deed ι)) :
    p.doing (deeds ++ deeds') = (p.doing deeds).doing deeds' := List.foldl_append ..

omit [BEq ι] in
/-- A call changes nothing but the writer and the journal. -/
theorem snd_write (call : Call) (p : Program ι) : ∃ journal,
    (write call p).2 = { p with writer := p.writer.after call, journal := journal } :=
  ⟨_, congrArg Prod.snd (run_write call p)⟩

theorem listeners_step (d : Deed ι) (event : String) (p : Program ι) :
    (d.step p).2.registry.listeners event = d.relist event (p.registry.listeners event) := by
  cases d with
  | on other l =>
      refine (Registry.listeners_on p.registry other event l).trans ?_
      by_cases h : event = other <;> simp [Deed.relist, h]
  | off other l => exact Registry.listeners_off p.registry other event l
  | write call =>
      obtain ⟨journal, e⟩ := snd_write call p
      exact congrArg (fun q => q.registry.listeners event) e
  | invoke | load | notify | found => rfl

/-- What becomes of the listeners of an event. -/
theorem listeners_doing (p : Program ι) (deeds : List (Deed ι)) (event : String) :
    (p.doing deeds).registry.listeners event =
      deeds.foldl (Deed.relist event) (p.registry.listeners event) := by
  induction deeds generalizing p with
  | nil => rfl
  | cons d deeds ih => rw [doing_cons, ih, listeners_step, List.foldl_cons]

theorem answer_of_deed? {trigger : Trigger ι} {request : Request ι} {d : Deed ι}
    (h : request.deed? = some d) : answer trigger request = d.step := by
  cases request with
  | trigger => cases h
  | write | on | off | load | notify | found =>
      cases h
      rfl

/-! ### Things that are done in a row -/

/-- Each of the things `xs`, with its deeds, is as `holds` says when those before it are done. -/
def Successively {β : Type} (deeds : β → List (Deed ι)) (holds : Program ι → β → Prop) :
    Program ι → List β → Prop
  | _, [] => True
  | p, x :: xs => holds p x ∧ Successively deeds holds (p.doing (deeds x)) xs

/-- What holds of each thing when those before it are done. -/
theorem Successively.of_append {β : Type} {deeds : β → List (Deed ι)} {holds : Program ι → β → Prop}
    {before after : List β} {x : β} (h : p.Successively deeds holds (before ++ x :: after)) :
    holds (p.doing (before.flatMap deeds)) x := by
  induction before generalizing p with
  | nil => exact h.1
  | cons y before ih =>
      rw [List.flatMap_cons, doing_append]
      exact ih h.2

end Program

end

/-! ### Replies and visits -/

/-- A request of a listener, the answer that it gets, and what is done for it. -/
structure Reply (ι : Type) where
  request : Request ι
  answer : Except Failure Unit
  deeds : List (Deed ι)

/-- A run of a listener. -/
structure Visit (ι : Type) where
  listener : ι
  /-- The parameters that it is given. -/
  params : Params
  replies : List (Reply ι)
  /-- The parameters that it leaves, unless it fails. -/
  result : Except Failure Params

/-- What is done in a run: the listener starts, and its requests are met one after the other. -/
def Visit.deeds (context : Context) (v : Visit ι) : List (Deed ι) :=
  .invoke v.listener v.params context :: v.replies.flatMap Reply.deeds

namespace Behaviour

/-- The behaviour makes the requests of the replies, gets their answers, and ends with `r`. -/
inductive Converses : Behaviour ι α → List (Reply ι) → Except Failure α → Prop where
  | done (a : α) : Converses (.done a) [] (.ok a)
  | fail (e : Failure) : Converses (.fail e) [] (.error e)
  | ask (reply : Reply ι) {next : Except Failure Unit → Behaviour ι α} {replies : List (Reply ι)}
      {r : Except Failure α} (rest : Converses (next reply.answer) replies r) :
      Converses (.ask reply.request next) (reply :: replies) r

theorem converses_ask_iff {request : Request ι} {next : Except Failure Unit → Behaviour ι α}
    {replies : List (Reply ι)} {r : Except Failure α} :
    (ask request next).Converses replies r ↔ ∃ reply rest, replies = reply :: rest ∧
      reply.request = request ∧ (next reply.answer).Converses rest r := by
  constructor
  · intro h
    cases h with
    | ask reply rest => exact ⟨reply, _, rfl, rfl, rest⟩
  · rintro ⟨reply, rest, rfl, rfl, h⟩
    exact .ask reply h

/-- What a behaviour asks for and how it ends depends on the answers alone. -/
theorem Converses.determined {b : Behaviour ι α} {replies replies' : List (Reply ι)}
    {r r' : Except Failure α} (h : b.Converses replies r) (h' : b.Converses replies' r')
    (same : replies.map Reply.answer = replies'.map Reply.answer) :
    replies.map Reply.request = replies'.map Reply.request ∧ r = r' := by
  induction b generalizing replies replies' with
  | done a =>
      cases h
      cases h'
      exact ⟨rfl, rfl⟩
  | fail e =>
      cases h
      cases h'
      exact ⟨rfl, rfl⟩
  | ask request next ih =>
      obtain ⟨reply, rest, rfl, rfl, hr⟩ := converses_ask_iff.mp h
      obtain ⟨reply', rest', rfl, first, hr'⟩ := converses_ask_iff.mp h'
      obtain ⟨answer, answers⟩ := List.cons.inj same
      obtain ⟨requests, result⟩ := ih _ hr (answer ▸ hr') answers
      exact ⟨List.cons_eq_cons.mpr ⟨first.symm, requests⟩, result⟩

/-- What is left of a behaviour after replies. -/
def resume : Behaviour ι α → List (Reply ι) → Behaviour ι α
  | .ask _ next, reply :: replies => (next reply.answer).resume replies
  | b, _ => b

theorem Converses.resume {b : Behaviour ι α} {front back : List (Reply ι)} {r : Except Failure α}
    (h : b.Converses (front ++ back) r) : (b.resume front).Converses back r := by
  induction front generalizing b with
  | nil => cases b <;> exact h
  | cons reply front ih =>
      cases h with
      | ask _ rest => exact ih rest

/-- A behaviour that lets a failure pass ends with it. -/
theorem Converses.passed {b : Behaviour ι α} {front back : List (Reply ι)} {r : Except Failure α}
    {e : Failure} (h : b.Converses (front ++ back) r) (he : b.resume front = .fail e) :
    back = [] ∧ r = .error e := by
  have rest := h.resume
  rw [he] at rest
  cases rest
  exact ⟨rfl, rfl⟩

end Behaviour

/-- Runs of listeners, each of which is given the parameters that the one before it has left.  The
first one that fails is the last. -/
inductive Hands : Params → List (Visit ι) → Except Failure Unit → Prop where
  | nil (params : Params) : Hands params [] (.ok ())
  | failed {v : Visit ι} {e : Failure} (raised : v.result = .error e) :
      Hands v.params [v] (.error e)
  | next {v : Visit ι} {params : Params} {visits : List (Visit ι)} {r : Except Failure Unit}
      (left : v.result = .ok params) (rest : Hands params visits r) : Hands v.params (v :: visits) r

namespace Hands

variable {params : Params} {visits before after : List (Visit ι)} {v : Visit ι}
  {r : Except Failure Unit} {e : Failure}

/-- The first listener is given the parameters with which the runs start. -/
theorem head (h : Hands params (v :: visits) r) : v.params = params := by
  cases h <;> rfl

/-- A listener that fails is the last to run, and its failure is the outcome. -/
theorem raised (h : Hands params visits r) (hv : visits = before ++ v :: after)
    (he : v.result = .error e) : after = [] ∧ r = .error e := by
  induction h generalizing before with
  | nil params => simp at hv
  | failed raised =>
      cases before with
      | nil =>
          obtain ⟨rfl, rfl⟩ := List.cons.inj hv
          exact ⟨rfl, congrArg Except.error (Except.error.inj (raised.symm.trans he))⟩
      | cons w before => simp at hv
  | next left rest ih =>
      cases before with
      | nil =>
          obtain ⟨rfl, -⟩ := List.cons.inj hv
          cases left.symm.trans he
      | cons w before => exact ih (List.cons.inj hv).2

/-- A failure that is the outcome is that of the last listener that ran. -/
theorem last (h : Hands params visits (.error e)) :
    ∃ before v, visits = before ++ [v] ∧ v.result = .error e := by
  generalize hr : (.error e : Except Failure Unit) = r at h
  induction h with
  | nil params => cases hr
  | failed raised =>
      cases hr
      exact ⟨[], _, rfl, raised⟩
  | next left rest ih =>
      obtain ⟨before, v, rfl, he⟩ := ih hr
      exact ⟨_ :: before, v, rfl, he⟩

end Hands

/-! ### Dispatches -/

/-- A description of dispatches: of what event, with what parameters, in what context and from what
program, and with what outcome and deeds. -/
abbrev Dispatching (ι : Type) : Type :=
  String → Params → Context → Program ι → Except Failure Unit → List (Deed ι) → Prop

variable [BEq ι]

/-- The request of a reply is met in the program `p`.  The answer says whether this succeeded and
nothing else: parameters that are given to a dispatch do not come back. -/
inductive Reply.IsMet (nested : Dispatching ι) (p : Program ι) : Reply ι → Prop where
  | done {request : Request ι} {d : Deed ι} (h : request.deed? = some d) :
      IsMet nested p ⟨request, (d.step p).1, [d]⟩
  | dispatched {event : String} {params : Params} {context : Context} {r : Except Failure Unit}
      {deeds : List (Deed ι)} (h : nested event params context p r deeds) :
      IsMet nested p ⟨.trigger event params context, r, deeds⟩

/-- A run of a listener in the program `p`. -/
structure Visit.IsRun (behaviours : ι → Listener ι) (nested : Dispatching ι) (context : Context)
    (p : Program ι) (v : Visit ι) : Prop where
  converses : (behaviours v.listener v.params context).Converses v.replies v.result
  /-- The requests are met one after the other, with the dispatches that they start. -/
  met : (p.invoking v.listener v.params context).Successively Reply.deeds (Reply.IsMet nested)
    v.replies

namespace Program

/-- The runs of listeners `ls`, the first of which is given `params`, from the program `p` on. -/
structure Heard (behaviours : ι → Listener ι) (nested : Dispatching ι) (context : Context)
    (ls : List ι) (params : Params) (p : Program ι) (r : Except Failure Unit)
    (visits : List (Visit ι)) : Prop where
  /-- The listeners run in their order, each as often as it stands among them. -/
  order : visits.map Visit.listener <+: ls
  complete : r = .ok () → visits.map Visit.listener = ls
  hands : Hands params visits r
  /-- One run is over, with all the dispatches in it, before the next one starts. -/
  runs : p.Successively (Visit.deeds context) (Visit.IsRun behaviours nested context) visits
  /-- After a listener that fails no other one runs, and its failure is the outcome. -/
  raised : ∀ {before v after e}, visits = before ++ v :: after → v.result = .error e →
    after = [] ∧ r = .error e
  /-- There is no other failure. -/
  last : ∀ {e}, r = .error e → ∃ before v, visits = before ++ [v] ∧ v.result = .error e
  /-- A request that fails ends everything, if its listener lets the failure pass. -/
  passed : ∀ {before v after front reply back e}, visits = before ++ v :: after →
    v.replies = front ++ reply :: back → reply.answer = .error e →
    (behaviours v.listener v.params context).resume (front ++ [reply]) = .fail e →
    back = [] ∧ after = [] ∧ r = .error e

/-- A dispatch, with those that it starts nested at most `depth` deep; where there is no room for it,
it fails at once.  The listeners are those of the program in which it starts. -/
def Dispatched (behaviours : ι → Listener ι) : Nat → Dispatching ι
  | 0, _, _, _, _, r, deeds => r = .error .tooDeep ∧ deeds = []
  | depth + 1, event, params, context, p, r, deeds =>
    match p.registry.listeners event with
    | [] => r = .ok () ∧
      deeds = [.notify ⟨.debug, .events, "No listeners for " ++ event⟩]
    | l :: ls => ∃ visits,
      Heard behaviours (Dispatched behaviours depth) context (l :: ls) params p r visits ∧
      deeds = visits.flatMap (Visit.deeds context)

section Runs

variable {behaviours : ι → Listener ι} {nested : Dispatching ι} {trigger : Trigger ι}

theorem heard_of_hands {context : Context} {ls : List ι} {params : Params} {p : Program ι}
    {r : Except Failure Unit} {visits : List (Visit ι)} (order : visits.map Visit.listener <+: ls)
    (complete : r = .ok () → visits.map Visit.listener = ls) (hands : Hands params visits r)
    (runs : p.Successively (Visit.deeds context) (Visit.IsRun behaviours nested context) visits) :
    Heard behaviours nested context ls params p r visits where
  order := order
  complete := complete
  hands := hands
  runs := runs
  raised := hands.raised
  last hr := (hr ▸ hands).last
  passed := by
    intro before v after front reply back e hv hr _ he
    have converses := (hv ▸ runs).of_append.converses
    rw [hr, List.append_cons] at converses
    obtain ⟨hb, result⟩ := converses.passed he
    exact ⟨hb, hands.raised hv result⟩

/-- The trigger makes dispatches as described. -/
def Follows (trigger : Trigger ι) (nested : Dispatching ι) : Prop :=
  ∀ event params context (p : Program ι), ∃ deeds,
    nested event params context p (trigger event params context p).1 deeds ∧
    (trigger event params context p).2 = p.doing deeds

/-- A request is met. -/
theorem isMet_answer (h : Follows trigger nested) (request : Request ι) (p : Program ι) :
    ∃ deeds, Reply.IsMet nested p ⟨request, (answer trigger request p).1, deeds⟩ ∧
      (answer trigger request p).2 = p.doing deeds := by
  cases hd : request.deed? with
  | some d =>
      rw [answer_of_deed? hd]
      exact ⟨[d], .done hd, rfl⟩
  | none =>
      cases request with
      | trigger event params context =>
          obtain ⟨deeds, hn, hp⟩ := h event params context p
          exact ⟨deeds, .dispatched hn, hp⟩
      | write | on | off | load | notify | found => cases hd

/-- What a behaviour does. -/
theorem converses_runBehaviour (h : Follows trigger nested) (b : Behaviour ι α) (p : Program ι) :
    ∃ replies, b.Converses replies (runBehaviour trigger b p).1 ∧
      p.Successively Reply.deeds (Reply.IsMet nested) replies ∧
      (runBehaviour trigger b p).2 = p.doing (replies.flatMap Reply.deeds) := by
  induction b generalizing p with
  | done a => exact ⟨[], .done a, trivial, rfl⟩
  | fail e => exact ⟨[], .fail e, trivial, rfl⟩
  | ask request next ih =>
      obtain ⟨deeds, hmet, hp⟩ := isMet_answer h request p
      obtain ⟨replies, converses, met, hq⟩ := ih (answer trigger request p).1 (p.doing deeds)
      rw [runBehaviour_ask, hp]
      refine ⟨⟨request, _, deeds⟩ :: replies, .ask ⟨request, _, deeds⟩ converses, ⟨hmet, met⟩, ?_⟩
      rw [hq, List.flatMap_cons, doing_append]

/-- What listeners do. -/
theorem heard_runListeners (behaviours : ι → Listener ι) (h : Follows trigger nested)
    (context : Context) (ls : List ι) (params : Params) (p : Program ι) :
    ∃ visits, Heard behaviours nested context ls params p
        (runListeners behaviours trigger context ls params p).1 visits ∧
      (runListeners behaviours trigger context ls params p).2 =
        p.doing (visits.flatMap (Visit.deeds context)) := by
  induction ls generalizing params p with
  | nil =>
      exact ⟨[], heard_of_hands (List.prefix_refl _) (fun _ => rfl) (.nil params) trivial, rfl⟩
  | cons l ls ih =>
      obtain ⟨replies, converses, met, hp⟩ :=
        converses_runBehaviour h (behaviours l params context) (p.invoking l params context)
      -- what the listener does, and the program after it
      obtain ⟨result, q, hrun⟩ : ∃ result q, runBehaviour trigger (behaviours l params context)
        (p.invoking l params context) = (result, q) := ⟨_, _, rfl⟩
      rw [hrun] at converses hp
      let v : Visit ι := ⟨l, params, replies, result⟩
      have run : v.IsRun behaviours nested context p := ⟨converses, met⟩
      have after : q = p.doing (v.deeds context) := hp
      rw [runListeners_cons, Step.run_bind, hrun]
      cases result with
      | error e =>
          have hands : Hands params [v] (.error e) := .failed (v := v) rfl
          refine ⟨[v], heard_of_hands (by simp [v]) (fun hr => by cases hr) hands ⟨run, trivial⟩, ?_⟩
          rw [List.flatMap_singleton]
          exact after
      | ok left =>
          obtain ⟨visits, heard, hq⟩ := ih left q
          rw [after] at heard hq
          have hands := Hands.next (v := v) rfl heard.hands
          refine ⟨v :: visits, ?_, ?_⟩
          · rw [after]
            refine heard_of_hands ?_ (fun hr => ?_) hands ⟨run, heard.runs⟩
            · exact List.cons_prefix_cons.mpr ⟨rfl, heard.order⟩
            · exact congrArg (l :: ·) (heard.complete hr)
          · rw [List.flatMap_cons, doing_append, after]
            exact hq

/-- **A dispatch is as described.** -/
theorem follows_dispatch (behaviours : ι → Listener ι) (depth : Nat) :
    Follows (dispatch behaviours depth) (Dispatched behaviours depth) := by
  -- by induction on the depth: the dispatches that listeners start nest less deep
  induction depth with
  | zero => exact fun _ _ _ _ => ⟨[], ⟨rfl, rfl⟩, rfl⟩
  | succ depth ih =>
      intro event params context p
      rw [dispatch_succ]
      cases hl : p.registry.listeners event with
      | nil => exact ⟨_, by rw [Dispatched, hl]; exact ⟨rfl, rfl⟩, rfl⟩
      | cons l ls =>
          obtain ⟨visits, heard, hq⟩ :=
            heard_runListeners behaviours ih context (l :: ls) params p
          refine ⟨_, ?_, hq⟩
          rw [Dispatched, hl]
          exact ⟨visits, heard, rfl⟩

end Runs

/-- **A dispatch runs the listeners that its event has when it starts**, in order and each as often
as it stands among them, up to the first that fails.  So do the dispatches that listeners start, at
any depth and each in the program in which it starts: it is over before the listener goes on, and
sees the listeners that were added and taken away until then.  A failure that no listener on the way
handles leaves the outermost dispatch as it is, and nothing is done after it. -/
theorem dispatch_runs_snapshot (behaviours : ι → Listener ι) (depth : Nat) (event : String)
    (params : Params) (context : Context) (p : Program ι) :
    ∃ deeds,
      Dispatched behaviours depth event params context p
        (dispatch behaviours depth event params context p).1 deeds ∧
      (dispatch behaviours depth event params context p).2 = p.doing deeds ∧
      ∀ (q : Program ι) (done : List (Deed ι)) (name : String),
        (q.doing done).registry.listeners name =
          done.foldl (Deed.relist name) (q.registry.listeners name) := by
  obtain ⟨deeds, dispatched, hq⟩ := follows_dispatch behaviours depth event params context p
  exact ⟨deeds, dispatched, hq, listeners_doing⟩

-- a listener that adds another one: this one does not run before the second dispatch
example (w : Writer) : ((start w).runAll (fun adds params _ =>
      if adds then do
        .request (.on "Tick" false)
        return params
      else return params)
    [.on "Tick" true, .trigger "Tick" [] {}, .trigger "Tick" [] {}]).journal.toList.filterMap
      (fun | .invoked l _ _ => some l | _ => none) = [true, true, false] := rfl

end Program

end Postprocessor
