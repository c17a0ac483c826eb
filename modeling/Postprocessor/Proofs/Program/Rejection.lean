import Postprocessor.Proofs.Decimal.Scanning
import Postprocessor.Proofs.Output.Failing
import Postprocessor.Proofs.Output.Subprograms
import Postprocessor.Proofs.Program.Processing
import Postprocessor.Proofs.Program.Translation

/-!
# Proofs — traces that are rejected

The standard handlers take whatever a trace can give, with one exception: a working plane that is
none.  There the processing stops, and the files and the machine are as the events before that have
left them.

* `Event.NamesNoPlane`: an event that sets a working plane that is none.
* `IsWhole`: calls that write one line at most and end it, whatever the machine holds;
  `isWhole_calls` says that the calls of the handlers are so otherwise.
* `Writer.IsIdle`: a writer between two lines; `events_idle` says that it is between two lines after
  every event.
* `dispatch_rejected`: the dispatch of an event that names no plane.
* `Program.processing_rejected`: which traces are rejected, with which failure, and what is left.
-/

namespace Postprocessor

/-! ### Planes -/

/-- The spellings of the working planes. -/
def Plane.spellings : List String := ["xy", "xz", "yz"]

/-- The value is the spelling of a working plane. -/
def Value.SpellsPlane (v : Value) : Prop := ∃ s ∈ v.text?, s ∈ Plane.spellings

instance : DecidablePred Value.SpellsPlane := fun v =>
  inferInstanceAs (Decidable (∃ s ∈ v.text?, s ∈ Plane.spellings))

/-- The event is to set the working plane, and gives something that is none. -/
def Event.NamesNoPlane (e : Event) : Prop :=
  e.name = "MachinePlane" ∧ ∃ v ∈ e.params.lookup "machine_plane", ¬ v.SpellsPlane

instance : DecidablePred Event.NamesNoPlane := fun e =>
  inferInstanceAs (Decidable (_ ∧ ∃ v ∈ e.params.lookup "machine_plane", ¬ v.SpellsPlane))

theorem Plane.mem_spellings {s : String} :
    s ∈ spellings ↔ ∃ p : Plane, Symbol.ofWord? s = some (.plane p) := by
  constructor
  · intro h
    simp only [spellings, List.mem_cons, List.not_mem_nil, or_false] at h
    rcases h with rfl | rfl | rfl
    · exact ⟨.xy, by decide⟩
    · exact ⟨.xz, by decide⟩
    · exact ⟨.yz, by decide⟩
  · rintro ⟨p, hp⟩
    rw [← Symbol.ofWord?_eq_some_iff.mp hp]
    cases p <;> decide

theorem Value.spellsPlane_iff {v : Value} :
    v.SpellsPlane ↔ ∃ p : Plane, v.symbol? = some (.plane p) := by
  rw [SpellsPlane, symbol?]
  cases v.text? with
  | none => simp
  | some s => simpa using Plane.mem_spellings

theorem planeCode_of_spellsPlane {v : Value} (h : v.SpellsPlane) :
    ∃ p : Plane, planeCode v = .ok p.code := by
  obtain ⟨p, hp⟩ := Value.spellsPlane_iff.mp h
  exact ⟨p, by rw [planeCode, hp]⟩

/-- A value of a trace that is no plane is refused. -/
theorem planeCode_of_not_spellsPlane {v : Value} (hv : v.IsScalar) (h : ¬ v.SpellsPlane) :
    ∃ shown, planeCode v = .error (.notPlane shown) := by
  obtain ⟨shown, hs⟩ : ∃ shown, v.shown = .ok shown := by
    cases v with
    | bool | float | text | symbol => exact ⟨_, rfl⟩
    | _ => exact hv.elim
  refine ⟨shown, ?_⟩
  rw [planeCode]
  split
  · next p hp => exact absurd (Value.spellsPlane_iff.mpr ⟨p, hp⟩) h
  · rw [hs]
    rfl

/-! ### Calls that write a line -/

/-- Whatever the machine holds, the call emits words, and ends the line if it says so. -/
def Call.IsReady (call : Call) : Prop :=
  ∀ m, ∃ words, call.fileStep m = FileSet.emit words (!call.endsLine)

/-- A verb that is not refused is ready if there are texts for what its settings are given. -/
theorem isReady_verb {v : Verb} (hr : v.refusal = .ok ()) (h : ∀ s ∈ v.settings, s.HasTexts)
    (noFlush : Bool) : (Call.verb v false noFlush).IsReady := by
  intro m
  obtain ⟨texts, m', hw⟩ := Verb.words_of_isWritable hr (Verb.isWritable_assigned h) false m
  refine ⟨texts, ?_⟩
  rw [Call.fileStep, Call.emission, hw, Call.endsLine, Bool.not_not]
  · rfl
  all_goals simp

theorem isReady_set {s : Setting} (hr : (Verb.set s).refusal = .ok ()) (h : s.HasTexts)
    (noFlush : Bool) : (Call.verb (.set s) false noFlush).IsReady :=
  isReady_verb hr (List.forall_mem_singleton.mpr h) noFlush

/-- The calls write one line at most, and end it. -/
inductive IsWhole : List Call → Prop where
  | nothing : IsWhole []
  | line {calls : List Call} {last : Call}
      (hc : ∀ call ∈ calls, call.IsReady ∧ call.endsLine = false) (hl : last.IsReady)
      (he : last.endsLine = true) : IsWhole (calls ++ [last])
  /-- A call that writes nothing and ends no line. -/
  | blank {call : Call} (h : ∀ m, call.fileStep m = FileSet.emit [] true) : IsWhole [call]

theorem Call.IsReady.isWhole {call : Call} (h : call.IsReady) (he : call.endsLine = true) :
    IsWhole [call] := by
  have alone : IsWhole ([] ++ [call]) := .line (List.forall_mem_nil _) h he
  exact alone

/-- The writer is between two lines of the main file, of which there are at most `count`. -/
structure Writer.IsIdle (c : Config) (count : Nat) (w : Writer) : Prop where
  counts : Counts c count w
  opened : w.files.opened = none
  closed : w.files.closed = []
  ended : w.files.main.pending = []

theorem isIdle_start (c : Config) : (Writer.start c).IsIdle c 0 := ⟨counts_start c, rfl, rfl, rfl⟩

variable {c : Config} {count : Nat} {calls : List Call} {w : Writer}

/-- Calls that leave the line open succeed. -/
theorem open_steps (h : Counts c count w) (ho : w.files.opened = none)
    (hc : ∀ call ∈ calls, call.IsReady ∧ call.endsLine = false) (hp : c.numbering.Prints count) :
    w.Accepts calls ∧ Counts c count (w.runAll calls) ∧ (w.runAll calls).files.opened = none ∧
      (w.runAll calls).files.closed = w.files.closed := by
  induction calls generalizing w with
  | nil => exact ⟨trivial, h, ho, rfl⟩
  | cons call calls ih =>
      obtain ⟨ready, keeps⟩ := hc call (List.mem_cons_self ..)
      obtain ⟨words, hs⟩ := ready w.machine
      rw [keeps] at hs
      have none : (!false) = false → 0 = 1 := nofun
      obtain ⟨outcome, counts, files⟩ := emits_step h ho hs none hp
      obtain ⟨accepts, counts', opened, closed⟩ :=
        ih counts (files ▸ ho) fun d hd => hc d (List.mem_cons_of_mem _ hd)
      exact ⟨⟨outcome, accepts⟩, counts', opened, closed.trans (files ▸ rfl)⟩

/-- **Calls that write a line** succeed between two lines, and end between two lines. -/
theorem IsWhole.step (hl : IsWhole calls) (h : w.IsIdle c count)
    (hp : c.numbering.Prints (count + 1)) :
    w.Accepts calls ∧ (w.runAll calls).IsIdle c (count + 1) := by
  cases hl with
  | nothing => exact ⟨trivial, h.counts.mono (Nat.le_succ _), h.opened, h.closed, h.ended⟩
  | @blank call hs =>
      have none : true = false → 1 = 1 := nofun
      obtain ⟨outcome, counts, files⟩ := emits_step h.counts h.opened (hs w.machine) none hp
      refine ⟨⟨outcome, trivial⟩, counts, files ▸ h.opened, files ▸ h.closed, ?_⟩
      show (w.after call).files.main.pending = []
      rw [files, ProgramFile.pending_emitted_keep, h.ended]
      rfl
  | @line first last hc hl he =>
      obtain ⟨accepts, counts, opened, closed⟩ :=
        open_steps h.counts h.opened hc (hp.mono (Nat.le_succ _))
      obtain ⟨words, hs⟩ := hl (w.runAll first).machine
      rw [he] at hs
      obtain ⟨outcome, counts', files⟩ := emits_step counts opened hs (fun _ => rfl) hp
      rw [Writer.runAll_append]
      refine ⟨Writer.accepts_append.mpr ⟨accepts, outcome, trivial⟩, counts', files ▸ opened,
        files ▸ closed.trans h.closed, ?_⟩
      show ((w.runAll first).after last).files.main.pending = []
      rw [files]
      exact ProgramFile.pending_emitted

/-! ### What handlers accept -/

namespace Handler

variable {params : Params}

/-- A parameter of a trace, or null in its place, has a text. -/
theorem written_get (hs : params.AreScalar) (key : String) :
    ∃ s, (params.get key).written = .ok s := by
  rw [Params.get]
  cases hv : params.lookup key with
  | none => exact ⟨_, rfl⟩
  | some v => exact written_of_isScalar (hs.lookup hv)

theorem hasTexts_position (hs : params.AreScalar) : (Setting.position (target params)).HasTexts := by
  intro of
  cases of with
  | x | y | z => exact written_get hs _
  | a | b | c => exact ⟨_, rfl⟩

theorem isReady_rapid (hs : params.AreScalar) :
    (Call.verb (.rapid (target params)) false false).IsReady := by
  refine isReady_verb rfl (fun s mem => ?_) false
  simp only [Verb.settings, List.mem_cons, List.not_mem_nil, or_false] at mem
  rcases mem with rfl | rfl
  · trivial
  · exact hasTexts_position hs

theorem isReady_line (hs : params.AreScalar) :
    (Call.verb (.line (target params) (params.get "feed")) false false).IsReady := by
  refine isReady_verb rfl (fun s mem => ?_) false
  simp only [Verb.settings, List.mem_cons, List.not_mem_nil, or_false] at mem
  rcases mem with rfl | rfl | rfl
  · trivial
  · exact hasTexts_position hs
  · exact written_get hs _

theorem isReady_directionCalls :
    ∀ call ∈ directionCalls params, call.IsReady ∧ call.endsLine = false := by
  rw [directionCalls]
  cases h : directionCode (params.get "spin_direction") with
  | error e => exact List.forall_mem_nil _
  | ok code =>
      have accepted : (Verb.set (.direction (params.get "spin_direction"))).refusal = .ok () := by
        rw [Verb.refusal, Setting.assignments, h]
        rfl
      exact List.forall_mem_singleton.mpr ⟨isReady_set accepted trivial true, rfl⟩

theorem isWhole_spin (hs : params.AreScalar) :
    IsWhole (.verb (.set (.speed (params.get "spin"))) false true :: directionCalls params ++
      [.flush]) := by
  refine .line (fun call mem => ?_) (fun m => ⟨[], rfl⟩) rfl
  rcases List.mem_cons.mp mem with rfl | mem
  · exact ⟨isReady_set (s := .speed _) rfl (written_get hs "spin") true, rfl⟩
  · exact isReady_directionCalls call mem

/-- The name of a tool that a trace gives is a text. -/
theorem toolName_text {v : Value} (hv : ∃ s, v.written = .ok s) :
    ∃ name s, toolName v = .ok name ∧ name.text? = some s := by
  obtain ⟨s, hs⟩ := hv
  cases v with
  | text t => exact ⟨_, _, rfl, rfl⟩
  | symbol t => exact ⟨_, _, rfl, rfl⟩
  | float x => exact ⟨_, _, rfl, rfl⟩
  | _ => exact ⟨.text s, s, congrArg (Except.map Value.text) hs, rfl⟩

theorem isReady_changeTool {name : Value} {s : String} (h : name.text? = some s) :
    (Call.verb (.changeTool name) false false).IsReady :=
  isReady_verb rfl (List.forall_mem_singleton.mpr ⟨s, Value.written_of_text? h⟩) false

theorem isWhole_comment (text : String) : IsWhole [.comment (.text text) false] := by
  obtain ⟨word, hw⟩ : ∃ word, Writer.wordOf (.text text) = .ok word := by
    rw [Writer.wordOf]
    split <;> exact ⟨_, rfl⟩
  have emission : ∀ m, (Call.comment (.text text) false).fileStep m = FileSet.handOver (.ok
      (if word.trimmed.isEmpty then ([], true) else (["; " ++ word.trimmed], false))) := by
    intro m
    rw [Call.fileStep, Call.emission, hw]
    · rfl
    all_goals simp
  by_cases hb : word.trimmed.isEmpty = true
  · refine .blank fun m => ?_
    rw [emission, if_pos hb]
    rfl
  · have ends : (Call.comment (.text text) false).endsLine = true := by
      simp [Call.endsLine, Call.isBlankComment, hw, hb, Except.toOption]
    have ready : (Call.comment (.text text) false).IsReady := by
      intro m
      refine ⟨["; " ++ word.trimmed], ?_⟩
      rw [emission, if_neg hb, ends]
      rfl
    exact ready.isWhole ends

theorem isReady_absoluteMode :
    (Call.verb (.set (.mode .positioning (.int 90))) false false).IsReady := by
  have accepted : (Verb.set (.mode .positioning (.int 90))).refusal = .ok () := by
    rw [Verb.refusal, Setting.assignments_mode (by decide)]
    rfl
  exact isReady_set accepted trivial false

theorem isWhole_machinePlane (hp : ∀ v ∈ params.lookup "machine_plane", v.SpellsPlane) :
    ∃ made, machinePlane.calls params = .ok made ∧ IsWhole made := by
  rw [calls, Params.get]
  cases hv : params.lookup "machine_plane" with
  | none => exact ⟨[], rfl, .nothing⟩
  | some v =>
      obtain ⟨p, code⟩ := planeCode_of_spellsPlane (hp v hv)
      have accepted : (Verb.set (.plane v)).refusal = .ok () := by
        rw [Verb.refusal, Setting.assignments, code]
        rfl
      refine ⟨[.verb (.set (.plane v)) false false], ?_,
        (isReady_set accepted trivial false).isWhole rfl⟩
      cases v with
      | null => cases code
      | _ => rfl

theorem isWhole_changeTool (hs : params.AreScalar) :
    ∃ made, changeTool.calls params = .ok made ∧ IsWhole made := by
  rw [calls]
  split
  · exact ⟨[], rfl, .nothing⟩
  · have written : ∃ s, (toolOf params).written = .ok s := by
      rw [toolOf]
      split <;> exact written_get hs _
    obtain ⟨name, s, named, text⟩ := toolName_text written
    rw [named]
    exact ⟨_, rfl, (isReady_changeTool text).isWhole rfl⟩

/-- **A handler accepts** all that a trace can give, but for a plane that is none. -/
theorem isWhole_calls (hs : params.AreScalar) (h : Handler)
    (hp : h = .machinePlane → ∀ v ∈ params.lookup "machine_plane", v.SpellsPlane) :
    ∃ made, h.calls params = .ok made ∧ IsWhole made := by
  cases h with
  | feedSpin => exact ⟨_, rfl, isWhole_spin hs⟩
  | rapidMove => exact ⟨_, rfl, (isReady_rapid hs).isWhole rfl⟩
  | line => exact ⟨_, rfl, (isReady_line hs).isWhole rfl⟩
  | absoluteMode => exact ⟨_, rfl, isReady_absoluteMode.isWhole rfl⟩
  | machinePlane => exact isWhole_machinePlane (hp rfl)
  | changeTool => exact isWhole_changeTool hs
  | message =>
      obtain ⟨text, ht⟩ : ∃ text, ((params.lookup "message").getD (.text "")).written = .ok text := by
        cases hm : params.lookup "message" with
        | none => exact ⟨_, rfl⟩
        | some v => exact written_of_isScalar (hs.lookup hm)
      exact ⟨_, congrArg (Except.map _) ht, isWhole_comment text⟩
  | endOfFile =>
      have ready : (Call.put (.text "M30") true).IsReady := fun m => ⟨["M30"], rfl⟩
      exact ⟨_, rfl, ready.isWhole rfl⟩

end Handler

/-! ### Events -/

theorem Handler.ofEvent?_eq_some {name : String} {h : Handler} (hh : ofEvent? name = some h) :
    name = h.event := by
  simpa using List.find?_some hh

theorem Event.calls_of_ok {e : Event} {made : List Call}
    (h : standardCalls e.name e.params = .ok made) : e.calls = made := by
  rw [Event.calls, h]
  rfl

/-- Whatever a trace gives, a handler fails before its first call for no event. -/
theorem standardCalls_of_areScalar {e : Event} (hs : e.params.AreScalar) :
    standardCalls e.name e.params = .ok e.calls := by
  obtain ⟨made, hm⟩ : ∃ made, standardCalls e.name e.params = .ok made := by
    rw [standardCalls]
    cases hh : Handler.ofEvent? e.name with
    | none => exact ⟨_, rfl⟩
    | some h =>
        by_cases plane : h = .machinePlane
        · subst plane
          simp only [Handler.calls]
          split <;> exact ⟨_, rfl⟩
        · obtain ⟨made, hm, -⟩ := Handler.isWhole_calls hs h fun e => absurd e plane
          exact ⟨made, hm⟩
  rw [hm, Event.calls_of_ok hm]

/-- An event makes calls that write a line, unless it names no plane. -/
theorem Event.isWhole_calls {e : Event} (hs : e.params.AreScalar) (hn : ¬ e.NamesNoPlane) :
    IsWhole e.calls := by
  cases hh : Handler.ofEvent? e.name with
  | none =>
      have silent : standardCalls e.name e.params = .ok [] := by rw [standardCalls, hh]
      rw [Event.calls_of_ok silent]
      exact .nothing
  | some h =>
      have planes : h = .machinePlane → ∀ v ∈ e.params.lookup "machine_plane", v.SpellsPlane := by
        rintro rfl v hv
        exact Decidable.not_not.mp fun no => hn ⟨Handler.ofEvent?_eq_some hh, v, hv, no⟩
      obtain ⟨made, hm, whole⟩ := Handler.isWhole_calls hs h planes
      have called : standardCalls e.name e.params = .ok made := by
        rw [standardCalls, hh]
        exact hm
      rw [Event.calls_of_ok called]
      exact whole

/-- **Events that name planes**, if any, make calls that succeed, and after each the writer is
between two lines. -/
theorem events_idle {events : List Event}
    (he : ∀ e ∈ events, e.params.AreScalar ∧ ¬ e.NamesNoPlane) (h : w.IsIdle c count)
    (hp : c.numbering.Prints (count + events.length)) :
    w.Accepts (events.flatMap Event.calls) ∧
      (w.runAll (events.flatMap Event.calls)).IsIdle c (count + events.length) := by
  induction events generalizing w count with
  | nil => exact ⟨trivial, h⟩
  | cons e events ih =>
      obtain ⟨scalar, named⟩ := he e (List.mem_cons_self ..)
      have size : count + (e :: events).length = count + 1 + events.length := by
        rw [List.length_cons]
        omega
      rw [size] at hp ⊢
      obtain ⟨accepts, idle⟩ :=
        (Event.isWhole_calls scalar named).step h (hp.mono (Nat.le_add_right _ _))
      obtain ⟨accepts', idle'⟩ := ih (fun d hd => he d (List.mem_cons_of_mem _ hd)) idle hp
      rw [List.flatMap_cons, Writer.runAll_append]
      exact ⟨Writer.accepts_append.mpr ⟨accepts, accepts'⟩, idle'⟩

/-! ### Programs -/

namespace Program

theorem write_of_error {ι : Type} {p : Program ι} {call : Call} {e : Failure}
    (h : p.writer.outcome call = .error e) :
    write call p = (.error e, { p with writer := p.writer.after call }) := by
  rw [run_write, h]

/-- A call that succeeds, and is not reported. -/
theorem write_of_ok {ι : Type} {p : Program ι} {call : Call} (h : p.writer.outcome call = .ok ())
    (hn : callNotice? p.writer.files call = none) :
    write call p = (.ok (), { p with writer := p.writer.after call }) := by
  rw [run_write, h, hn]

/-- A plane that is none is refused, and changes nothing. -/
theorem write_plane {ι : Type} (p : Program ι) {v : Value} {e : Failure}
    (h : planeCode v = .error e) :
    write (.verb (.set (.plane v)) false false) p = (.error e, p) := by
  have refusal : p.writer.refusal (.verb (.set (.plane v)) false false) = .error e := by
    show (Setting.plane v).assignments.map _ = _
    rw [Setting.assignments, h]
    rfl
  have fails : Fails p.writer (.verb (.set (.plane v)) false false) e p.writer := .refused refusal
  rw [write_of_error fails.outcome, fails.after]

/-- **The dispatch of an event that names no plane** fails, and leaves the writer as it was. -/
theorem dispatch_rejected (depth : Nat) {params : Params} {v : Value} {e : Failure}
    (hv : params.lookup "machine_plane" = some v) (hs : v.IsScalar) (h : planeCode v = .error e)
    (context : Context) {p : Program Handler} (hr : p.registry = Handler.registry) :
    dispatch Handler.listener (depth + 1) "MachinePlane" params context p =
      (.error e, p.invoking .machinePlane params context) := by
  have listeners : p.registry.listeners "MachinePlane" = [.machinePlane] := by
    rw [hr, Handler.listeners_registry]
    rfl
  have action : Handler.machinePlane.listener params context = (do
      Handler.write (.verb (.set (.plane v)) false false)
      return params : Behaviour Handler Params) := by
    rw [Handler.listener, Handler.action, Handler.plane, Params.get, hv]
    cases v with
    | null => exact hs.elim
    | _ => rfl
  have failed : ∀ q : Program Handler, runBehaviour (dispatch Handler.listener depth)
      (Handler.machinePlane.listener params context) q = (.error e, q) := by
    intro q
    rw [action, runBehaviour_bind, Handler.write, runBehaviour_request]
    exact Step.bind_of_error (write_plane q h) _
  rw [dispatch_succ, listeners, if_neg (by simp), runListeners_cons, Step.bind_of_error (failed _)]

/-- Processing stops where the dispatch of an event fails. -/
theorem process_of_error {ι : Type} [BEq ι] {behaviours : ι → Listener ι} {p q q' : Program ι}
    {e : Failure} {n : Nat} (hn : n < p.events.size)
    (first : processFirst behaviours n p = (.ok (), q))
    (failed : dispatchAt behaviours p.events (p.events[n], n) q = (.error e, q')) :
    process behaviours p = (.error e, q') := by
  have events : p.events.toList.zipIdx =
      p.events.toList.zipIdx.take n ++ (p.events[n], n) :: p.events.toList.zipIdx.drop (n + 1) := by
    rw [← drop_zipIdx p.events hn, List.take_append_drop]
  have run : (p.events.toList.zipIdx.take n).forM (dispatchAt behaviours p.events) p =
      (.ok (), q) := by
    rw [processFirst, Step.bind_of_ok (Step.run_get p)] at first
    exact first
  rw [process_eq, events, List.forM_eq_forM, List.forM_append]
  exact Step.bind_of_error ((Step.bind_of_ok run _).trans (Step.bind_of_error failed _)) _

/-- Loads records into a program with the standard handlers, and dispatches them. -/
def processing (records : List Trace.Record) : Step (Program Handler) Unit := do
  addStandard id
  load records
  process Handler.listener

/-- The program after records are loaded into it and dispatched, and how that ends. -/
def processed (c : Config) (records : List Trace.Record) : Except Failure Unit × Program Handler :=
  (start (.start c)).run (processing records)

theorem processed_eq (c : Config) (records : List Trace.Record) : ∃ journal,
    processed c records = process Handler.listener (loaded (.start c) records journal) := by
  obtain ⟨journal, run⟩ := run_loaded (.start c) records
  exact ⟨journal, run _⟩

/-- The writer after the calls for records. -/
def written (c : Config) (records : List Trace.Record) : Writer :=
  (Writer.start c).runAll ((records.map Trace.Record.event).flatMap Event.calls)

variable {c : Config} {before after records : List Trace.Record} {r : Trace.Record}

/-- Records that name planes, if any, make calls that succeed. -/
theorem written_named (hs : ∀ r ∈ records, r.params.AreScalar)
    (hn : ∀ r ∈ records, ¬ r.event.NamesNoPlane) (hp : c.numbering.Prints records.length) :
    (Writer.start c).Accepts ((records.map Trace.Record.event).flatMap Event.calls) ∧
      (written c records).IsIdle c records.length := by
  have named : ∀ e ∈ records.map Trace.Record.event, e.params.AreScalar ∧ ¬ e.NamesNoPlane := by
    intro e he
    obtain ⟨r, mem, rfl⟩ := List.mem_map.mp he
    exact ⟨hs r mem, hn r mem⟩
  have prints : c.numbering.Prints (0 + (records.map Trace.Record.event).length) := by
    rwa [Nat.zero_add, List.length_map]
  have run := events_idle named (isIdle_start c) prints
  rwa [Nat.zero_add, List.length_map] at run

/-- The dispatch of the first events, all of which name planes. -/
theorem processFirst_named (hr : records = before ++ after)
    (hs : ∀ r ∈ records, r.params.AreScalar) (hn : ∀ r ∈ before, ¬ r.event.NamesNoPlane)
    (hp : c.numbering.Prints before.length) (journal : Array (Entry Handler)) : ∃ journal',
    processFirst Handler.listener before.length (loaded (.start c) records journal) =
      (.ok (), loaded (written c before) records journal') := by
  have front : ∀ r ∈ before, r.params.AreScalar :=
    fun r mem => hs r (hr ▸ List.mem_append_left after mem)
  obtain ⟨accepts, -⟩ := written_named front hn hp
  have first : (records.map Trace.Record.event).take before.length =
      before.map Trace.Record.event := by
    rw [← List.map_take, hr, List.take_left]
  have calls : ∀ e ∈ (loaded (.start c) records journal).events.toList,
      standardCalls e.name e.params = .ok e.calls := by
    intro e he
    obtain ⟨r, mem, rfl⟩ := List.mem_map.mp he
    exact standardCalls_of_areScalar (hs r mem)
  obtain ⟨journal', run⟩ := makes_processFirst rfl calls before.length (first ▸ accepts)
  refine ⟨journal', run.trans ?_⟩
  show (_, loaded ((Writer.start c).runAll
    (((records.map Trace.Record.event).take before.length).flatMap Event.calls)) records _) = _
  rw [first, written]

/-- A trace whose events name planes is processed. -/
theorem processed_named (hs : ∀ r ∈ records, r.params.AreScalar)
    (hn : ∀ r ∈ records, ¬ r.event.NamesNoPlane) (hp : c.numbering.Prints records.length) :
    (processed c records).1 = .ok () ∧ (processed c records).2.writer = written c records := by
  obtain ⟨journal, run⟩ := processed_eq c records
  obtain ⟨journal', all⟩ := processFirst_named (List.append_nil records).symm hs hn hp journal
  have count : (loaded (.start c) records journal).events.size = records.length := by
    simp [loaded]
  obtain ⟨_, processed⟩ := process_of_processFirst (count.symm ▸ all)
  rw [run, processed]
  exact ⟨rfl, rfl⟩

/-- A trace stops at the first event that names no plane. -/
theorem processed_not_named (hr : records = before ++ r :: after)
    (hs : ∀ r ∈ records, r.params.AreScalar) (hn : ∀ r ∈ before, ¬ r.event.NamesNoPlane)
    (hp : c.numbering.Prints before.length) (hno : r.event.NamesNoPlane) :
    ∃ v ∈ r.params.lookup "machine_plane", ∃ shown, planeCode v = .error (.notPlane shown) ∧
      (processed c records).1 = .error (.notPlane shown) ∧
      (processed c records).2.writer = written c before := by
  obtain ⟨name, v, hv, none⟩ := hno
  have scalar : v.IsScalar := (hs r (by simp [hr])).lookup hv
  obtain ⟨shown, code⟩ := planeCode_of_not_spellsPlane scalar none
  obtain ⟨journal, run⟩ := processed_eq c records
  obtain ⟨journal', first⟩ := processFirst_named hr hs hn hp journal
  have size : before.length < (loaded (.start c) records journal).events.size := by
    simp [loaded, hr]
  have event : (loaded (.start c) records journal).events[before.length] = r.event := by
    simp [loaded, hr]
  obtain ⟨_, failed⟩ : ∃ journal'',
      dispatchAt Handler.listener (loaded (.start c) records journal).events
        ((loaded (.start c) records journal).events[before.length], before.length)
        (loaded (written c before) records journal') =
      (.error (.notPlane shown), loaded (written c before) records journal'') := by
    rw [event, dispatchAt, trigger_eq, name]
    exact ⟨_, dispatch_rejected _ hv scalar code _ rfl⟩
  refine ⟨v, hv, shown, code, ?_⟩
  rw [run, process_of_error size first failed]
  exact ⟨rfl, rfl⟩

/-! ### What is left -/

/-- Where no line has words, the text of the main file is generated as it stands. -/
theorem generate_of_ended {ι : Type} {p : Program ι}
    (h : ∀ f ∈ p.writer.files.files, f.pending = []) :
    (p.run generate).1 = .ok p.writer.files.main.text := by
  have outcome : p.writer.outcome .flushAll = .ok () := by
    rw [Writer.outcome_eq, Call.fileStep, FileSet.flushAll_of_ended h]
  have after : p.writer.after .flushAll = p.writer := by
    rw [Writer.after, Writer.run, Writer.perform_eq, Call.fileStep, FileSet.flushAll_of_ended h]
    rfl
  rw [run, generate, flushAll, Step.run_bind, write_of_ok outcome rfl, after]
  rfl

/-- The processing of a trace stopped at the record `r`, after the records `before`. -/
structure Rejected (c : Config) (before : List Trace.Record) (r : Trace.Record)
    (result : Except Failure Unit × Program Handler) : Prop where
  /-- The failure is the one with which the plane that the record gives is refused. -/
  failure : ∃ v ∈ r.params.lookup "machine_plane", ∃ e, planeCode v = .error e ∧
    e.kind = "ValueError" ∧ result.1 = .error e
  /-- The records before that are processed by themselves, and leave the same machine and files. -/
  accepted : (processed c before).1 = .ok ()
  writer : result.2.writer = (processed c before).2.writer
  /-- No line is open, so what is generated is the main file as it stands. -/
  ended : ∀ f ∈ result.2.writer.files.files, f.pending = []
  generated : (result.2.run generate).1 = .ok (processed c before).2.writer.files.main.text

/-- No file of a writer between two lines has an open line. -/
theorem ended_of_isIdle {w : Writer} {count : Nat} (h : w.IsIdle c count) :
    ∀ f ∈ w.files.files, f.pending = [] := by
  intro f hf
  rw [FileSet.files, h.closed, h.opened] at hf
  obtain rfl := List.mem_singleton.mp hf
  exact h.ended

theorem rejected_of_not_named (hr : records = before ++ r :: after)
    (hs : ∀ r ∈ records, r.params.AreScalar) (hn : ∀ r ∈ before, ¬ r.event.NamesNoPlane)
    (hp : c.numbering.Prints before.length) (hno : r.event.NamesNoPlane) :
    Rejected c before r (processed c records) := by
  have front : ∀ r ∈ before, r.params.AreScalar :=
    fun r mem => hs r (hr ▸ List.mem_append_left _ mem)
  obtain ⟨-, idle⟩ := written_named front hn hp
  obtain ⟨accepted, same⟩ := processed_named front hn hp
  obtain ⟨v, hv, shown, code, failed, left⟩ := processed_not_named hr hs hn hp hno
  have ended : ∀ f ∈ (processed c records).2.writer.files.files, f.pending = [] :=
    left ▸ ended_of_isIdle idle
  refine ⟨⟨v, hv, _, code, rfl, failed⟩, accepted, left.trans same.symm, ended, ?_⟩
  rw [generate_of_ended ended, left, same]

/-- The first member of a list with a property. -/
theorem exists_first {α : Type} {p : α → Prop} [DecidablePred p] {xs : List α}
    (h : ∃ x ∈ xs, p x) :
    ∃ before x after, xs = before ++ x :: after ∧ (∀ y ∈ before, ¬ p y) ∧ p x := by
  obtain ⟨x, found⟩ : ∃ x, xs.find? p = some x := by
    rw [← Option.isSome_iff_exists, List.find?_isSome]
    simpa using h
  obtain ⟨hx, before, after, split, others⟩ := List.find?_eq_some_iff_append.mp found
  exact ⟨before, x, after, split, by simpa using others, by simpa using hx⟩

/-- **Which traces are rejected.**  What a trace takes for a number is one, so that every trace is
read.  As long as the numbers of the lines can be written, its processing fails if and only if it
has an event that names no plane.  It stops at the first of them, and leaves the machine and the
files as the events before that do by themselves. -/
theorem processing_rejected (c : Config) (text : String)
    (hp : c.numbering.Prints (Trace.records text).size) :
    (∀ token d, Trace.numeral? token = some d → ∃ number unit,
        Trace.dropLineFeed token = number ++ unit ∧ unit.all Trace.isUnitLetter = true ∧
          Binary64.ofText? number = some d.toBinary64) ∧
      ((∃ e, (processed c (Trace.records text).toList).1 = .error e) ↔
        ∃ r ∈ (Trace.records text).toList, r.event.NamesNoPlane) ∧
      ∀ before r after, (Trace.records text).toList = before ++ r :: after →
        (∀ b ∈ before, ¬ b.event.NamesNoPlane) → r.event.NamesNoPlane →
        Rejected c before r (processed c (Trace.records text).toList) := by
  have scalar := Trace.areScalar_records text
  rw [← Array.length_toList] at hp
  generalize (Trace.records text).toList = records at scalar hp ⊢
  have stops : ∀ before r after, records = before ++ r :: after →
      (∀ b ∈ before, ¬ b.event.NamesNoPlane) → r.event.NamesNoPlane →
      Rejected c before r (processed c records) := by
    intro before r after split named none
    have few : before.length ≤ records.length := by simp [split]
    exact rejected_of_not_named split scalar named (hp.mono few) none
  refine ⟨fun token d => ofText?_of_numeral?, ⟨?_, fun some => ?_⟩, stops⟩
  · rintro ⟨e, failed⟩
    by_contra none
    have named : ∀ r ∈ records, ¬ r.event.NamesNoPlane := fun r mem no => none ⟨r, mem, no⟩
    rw [(processed_named scalar named hp).1] at failed
    cases failed
  · obtain ⟨before, r, after, split, named, none⟩ := exists_first some
    obtain ⟨_, -, e, -, -, failed⟩ := (stops before r after split named none).failure
    exact ⟨e, failed⟩

/-- A move, a plane that is none, and another move. -/
def rejectedTrace : String :=
  "(0)@line xpos: 1 feed: 60\n(1)@machine_plane machine_plane: zx\n(2)@line xpos: 2"

/-- It is rejected under the default numbering, and stops after the first move. -/
theorem processing_rejectedTrace :
    Numbering.Prints {} (Trace.records rejectedTrace).size ∧ ∃ before r after,
      (Trace.records rejectedTrace).toList = before ++ r :: after ∧
        (∀ b ∈ before, ¬ b.event.NamesNoPlane) ∧ r.event.NamesNoPlane ∧
        Rejected {} before r (processed {} (Trace.records rejectedTrace).toList) := by
  obtain ⟨some, few⟩ : (∃ r ∈ (Trace.records rejectedTrace).toList, r.event.NamesNoPlane) ∧
      (Trace.records rejectedTrace).size < 10 ^ (digitLimit - 1) := by
    rw [rejectedTrace, Trace.records_ofList]
    decide +kernel
  have prints : Numbering.Prints {} (Trace.records rejectedTrace).size := prints_default few
  obtain ⟨before, r, after, split, named, none⟩ := exists_first some
  exact ⟨prints, before, r, after, split, named, none,
    (processing_rejected {} rejectedTrace prints).2.2 before r after split named none⟩

end Program

end Postprocessor
