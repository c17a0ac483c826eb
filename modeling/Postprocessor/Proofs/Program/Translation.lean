import Postprocessor.Proofs.Trace.Told
import Postprocessor.Proofs.Trace.Values

/-!
# Proofs — the standard translation

The standard handlers translate the events of a trace one by one: each event is at most one line of
the main file, and a control that reads this line is told what the event tells.

* `Handler.Expects`: the parameters that a handler reads are of the kinds that it expects.
* `IsLine`: calls that write one line at most; `line_step`: they succeed, and leave the file
  legible and no line open.
* `Translates`: calls that write one line, which tells what an event tells.
* `translates_calls`: the calls of a handler do, whatever was told before.
* `Program.translation`: the processing of a trace succeeds, and after each of its events the lines
  of the main file tell what the events so far have told.
-/

namespace Postprocessor

/-! ### What handlers expect -/

/-- What is given under the key is a number. -/
def Params.IsNumberAt (params : Params) (key : String) : Prop :=
  ∀ v ∈ params.lookup key, v.IsNumber

instance (params : Params) (key : String) : Decidable (params.IsNumberAt key) :=
  inferInstanceAs (Decidable (∀ v ∈ params.lookup key, v.IsNumber))

namespace Value

/-- A working plane. -/
def IsPlane (v : Value) : Prop := ∃ p, v.symbol? = some (.plane p)

instance : DecidablePred IsPlane := fun v =>
  match h : v.symbol? with
  | some (.plane p) => .isTrue ⟨p, h⟩
  | some (.direction _) | some (.switch _) | none =>
    .isFalse fun ⟨_, e⟩ => absurd (h.symm.trans e) (by simp)

/-- A text that is not empty and has no quotes. -/
def IsToolName (v : Value) : Prop := ∃ s ∈ v.text?, s ≠ "" ∧ '"' ∉ s.toList

instance : DecidablePred IsToolName := fun v =>
  inferInstanceAs (Decidable (∃ s ∈ v.text?, s ≠ "" ∧ '"' ∉ s.toList))

end Value

namespace Handler

/-- The parameters that a handler reads are of the kinds that it expects. -/
def Expects (params : Params) : Handler → Prop
  | .rapidMove => ∀ key ∈ ["xpos", "ypos", "zpos"], params.IsNumberAt key
  | .line => ∀ key ∈ ["xpos", "ypos", "zpos", "feed"], params.IsNumberAt key
  | .feedSpin => params.IsNumberAt "spin"
  | .machinePlane => ∀ v ∈ params.lookup "machine_plane", v.IsPlane
  | .changeTool => (∀ v ∈ params.lookup "tool_id_string", v.IsToolName) ∧
      ∀ v ∈ params.lookup "tool_number", v.IsNumber ∨ v.IsToolName
  | .absoluteMode | .message | .endOfFile => True

instance (params : Params) : DecidablePred (Expects params)
  | .rapidMove => inferInstanceAs (Decidable (∀ key ∈ ["xpos", "ypos", "zpos"],
      params.IsNumberAt key))
  | .line => inferInstanceAs (Decidable (∀ key ∈ ["xpos", "ypos", "zpos", "feed"],
      params.IsNumberAt key))
  | .feedSpin => inferInstanceAs (Decidable (params.IsNumberAt "spin"))
  | .machinePlane => inferInstanceAs (Decidable (∀ v ∈ params.lookup "machine_plane", v.IsPlane))
  | .changeTool => inferInstanceAs (Decidable (_ ∧ ∀ v ∈ params.lookup "tool_number", _))
  | .absoluteMode | .message | .endOfFile => .isTrue trivial

end Handler

/-- The handler of the event, if there is one, finds what it expects. -/
def Event.IsSound (e : Event) : Prop := ∀ h ∈ Handler.ofEvent? e.name, h.Expects e.params

instance : DecidablePred Event.IsSound := fun e =>
  inferInstanceAs (Decidable (∀ h ∈ Handler.ofEvent? e.name, h.Expects e.params))

/-! ### Calls that write a line -/

/-- A call that is not refused and whose words are closed. -/
structure Call.IsClosed (call : Call) : Prop where
  modal : call.IsModal
  accepted : call.refusal = .ok ()
  closed : ∀ w ∈ call.full, Text.IsClosed w.toList

/-- The calls write one line at most, and end it: a comment, or closed words. -/
inductive IsLine : List Call → Prop where
  | nothing : IsLine []
  | comment {text : Value} {t : String} (ht : Writer.wordOf text = .ok t) :
      IsLine [.comment text false]
  | words {calls : List Call} {last : Call}
      (hc : ∀ call ∈ calls, call.IsClosed ∧ call.endsLine = false) (hl : last.IsClosed)
      (he : last.endsLine = true) : IsLine (calls ++ [last])

theorem Call.IsClosed.isLine {call : Call} (h : call.IsClosed) (he : call.endsLine = true) :
    IsLine [call] := by
  have alone : IsLine ([] ++ [call]) := .words (List.forall_mem_nil _) h he
  exact alone

variable {c : Config} {count : Nat} {calls made : List Call} {w : Writer}

/-- Calls that write closed words and leave their line open. -/
theorem closed_steps (h : Written c count calls w)
    (hc : ∀ call ∈ made, call.IsClosed ∧ call.endsLine = false) (hp : c.numbering.Prints count) :
    Writes c count calls made w := by
  induction made generalizing calls w with
  | nil => exact h.nil
  | cons call made ih =>
      obtain ⟨closed, keeps⟩ := hc call (List.mem_cons_self ..)
      -- a call that keeps its line open ends none, so the count stays
      have none : call.lineCount = 0 := by
        rw [Call.lineCount, keeps]
        rfl
      have one := (closed_step h closed.modal closed.accepted closed.closed (none ▸ hp)).1
      rw [none] at one
      exact one.append (ih one.written fun d hd => hc d (List.mem_cons_of_mem _ hd))

/-- **Calls that write a line** succeed, and leave the file legible and no line open. -/
theorem line_step (hl : IsLine made) (h : Written c count calls w)
    (hnil : w.files.main.pending = []) (hp : c.numbering.Prints (count + 1)) :
    Writes c (count + 1) calls made w ∧ (w.runAll made).files.main.pending = [] := by
  have fits : ∀ call : Call, count + call.lineCount ≤ count + 1 :=
    fun call => Nat.add_le_add_left call.lineCount_le _
  cases hl with
  | nothing => exact ⟨h.nil.mono (Nat.le_succ _), hnil⟩
  | comment ht =>
      obtain ⟨writes, nil⟩ := comment_step h hnil ht (hp.mono (fits _))
      exact ⟨writes.mono (fits _), nil⟩
  | @words first last hc hl he =>
      have start := closed_steps h hc (hp.mono (Nat.le_succ _))
      obtain ⟨writes, nil⟩ := closed_step start.written hl.modal hl.accepted hl.closed
        (hp.mono (fits _))
      refine ⟨start.append (writes.mono (fits _)), ?_⟩
      rw [Writer.runAll_append]
      exact nil he

/-! ### The lines of the handlers -/

/-- The calls write one line at most, and a control that reads it is told `tells`. -/
structure Translates (made : List Call) (tells : Told) : Prop where
  line : IsLine made
  control : ∀ s : Told, s.control.readAll (made.flatMap Call.full) =
    Told.control fun c => (tells c).or (s c)

theorem isClosed_verb {v : Verb} (hv : v.IsModal) (hr : v.refusal = .ok ())
    (hl : ∀ a ∈ v.assigned, a.IsLegible) (force noFlush : Bool) :
    (Call.verb v force noFlush).IsClosed := ⟨hv, hr, Verb.isClosed_full hv hl⟩

theorem isClosed_flush : Call.flush.IsClosed := by
  refine ⟨trivial, rfl, fun w hw => ?_⟩
  cases hw

/-- A verb on a line of its own. -/
theorem translates_verb {v : Verb} (hv : v.IsModal) (hr : v.refusal = .ok ())
    (hl : ∀ a ∈ v.assigned, a.IsLegible) {tells : Told}
    (ht : ∀ s : Told, v.assigned.foldl Told.give s = fun c => (tells c).or (s c)) :
    Translates [.verb v false false] tells := by
  refine ⟨(isClosed_verb hv hr hl false false).isLine rfl, fun s => ?_⟩
  rw [List.flatMap_singleton, ← ht s]
  exact s.readAll_full hv

/-- A line from which a control reads nothing. -/
theorem translates_silent (hl : IsLine made)
    (hs : ∀ k : Control, k.readAll (made.flatMap Call.full) = k) :
    Translates made fun _ => none := by
  refine ⟨hl, fun s => (hs _).trans ?_⟩
  simp only [Option.none_or]

namespace Handler

variable {params : Params}

theorem lookup_ne_null {key : String} (h : params.IsNumberAt key) :
    params.lookup key ≠ some .null := fun e => (h _ e).elim

/-- A number that may be left out is taken by an axis, the feed and the speed. -/
theorem get_isNumber {key : String} (h : params.IsNumberAt key) :
    params.get key = .null ∨ (params.get key).IsNumber := by
  rw [Params.get]
  cases hv : params.lookup key with
  | none => exact .inl rfl
  | some v => exact .inr (h v hv)

theorem target_takes (h : ∀ key ∈ ["xpos", "ypos", "zpos"], params.IsNumberAt key) (of : Axis) :
    (Channel.axis of).Takes (target params of) := by
  cases of with
  | x => exact get_isNumber (h "xpos" (by decide))
  | y => exact get_isNumber (h "ypos" (by decide))
  | z => exact get_isNumber (h "zpos" (by decide))
  | _ => exact .inl rfl

/-- The target of a move is told axis by axis. -/
theorem give_target (h : ∀ key ∈ ["xpos", "ypos", "zpos"], params.IsNumberAt key) (s : Told) :
    (Axis.all.map fun of => (⟨.axis of, target params of⟩ : Assignment)).foldl Told.give s =
      fun
        | .axis of => (coordinate params of).or (s (.axis of))
        | c => s c := by
  have x := lookup_ne_null (h "xpos" (by decide))
  have y := lookup_ne_null (h "ypos" (by decide))
  have z := lookup_ne_null (h "zpos" (by decide))
  have told : (Axis.all.map fun of => (⟨.axis of, target params of⟩ : Assignment)).foldl
      Told.give s = ((s.give ⟨.axis .x, params.get "xpos"⟩).give ⟨.axis .y, params.get "ypos"⟩).give
        ⟨.axis .z, params.get "zpos"⟩ := rfl
  rw [told, Told.give_get _ _ x, Told.give_get _ _ y, Told.give_get _ _ z]
  funext c
  cases c with
  | axis of => cases of <;> simp [Function.update, coordinate]
  | _ => simp [Function.update]

/-- No setting but that of the tool assigns a name. -/
theorem isLegible_assigned {v : Verb} (h : .tool ∉ v.channels) :
    ∀ a ∈ v.assigned, a.IsLegible := by
  intro a ha
  obtain ⟨s, hs, ha⟩ := List.mem_flatMap.mp ha
  rw [Setting.assigned] at ha
  cases has : s.assignments with
  | error e =>
      rw [has] at ha
      cases ha
  | ok as =>
      rw [has] at ha
      exact fun e => absurd (e ▸ Setting.channel_mem has a ha) fun channel =>
        h (Verb.mem_channels.mpr ⟨s, hs, channel⟩)

theorem translates_rapid (h : ∀ key ∈ ["xpos", "ypos", "zpos"], params.IsNumberAt key) :
    Translates [.verb (.rapid (target params)) false false] (tells params .rapidMove) := by
  refine translates_verb (Verb.isModal_rapid (target_takes h)) rfl
    (isLegible_assigned (by simp)) fun s => ?_
  rw [Verb.assigned_rapid, List.foldl_cons, give_target h]
  funext c
  cases c with
  | axis of => cases of <;> simp [Told.give, Function.update, tells]
  | mode m => cases m <;> simp [Told.give, Function.update, tells]
  | _ => simp [Told.give, Function.update, tells]

theorem translates_line (h : ∀ key ∈ ["xpos", "ypos", "zpos", "feed"], params.IsNumberAt key) :
    Translates [.verb (.line (target params) (params.get "feed")) false false]
      (tells params .line) := by
  have axes : ∀ key ∈ ["xpos", "ypos", "zpos"], params.IsNumberAt key :=
    fun key hk => h key (List.mem_append_left ["feed"] hk)
  have feed := h "feed" (by decide)
  refine translates_verb (Verb.isModal_line (target_takes axes) (get_isNumber feed)) rfl
    (isLegible_assigned (by simp)) fun s => ?_
  rw [Verb.assigned_line, List.foldl_append, List.foldl_cons, List.foldl_nil, List.foldl_cons,
    give_target axes, Told.give_get _ _ (lookup_ne_null feed)]
  funext c
  cases c with
  | axis of => cases of <;> simp [Told.give, Function.update, tells]
  | mode m => cases m <;> simp [Told.give, Function.update, tells]
  | _ => simp [Told.give, Function.update, tells]

/-- A setting of one channel on a line of its own. -/
theorem translates_set {s : Setting} {c : Channel} {v : Value} (hs : s.IsModal)
    (ha : s.assignments = .ok [⟨c, v⟩]) (hv : v ≠ .null) (hc : c ≠ .tool) {told : Told}
    (ht : told = Function.update (fun _ => none) c (some v)) :
    Translates [.verb (.set s) false false] told := by
  have refusal : (Verb.set s).refusal = .ok () := by
    rw [Verb.refusal, ha]
    rfl
  have assigned : (Verb.set s).assigned = [⟨c, v⟩] := by
    rw [Verb.assigned_set, Setting.assigned_of_ok ha]
  have legible : ∀ a ∈ (Verb.set s).assigned, a.IsLegible := by
    rw [assigned]
    exact List.forall_mem_singleton.mpr fun e => absurd e hc
  refine translates_verb (Verb.isModal_set hs) refusal legible fun t => ?_
  have given : t.give ⟨c, v⟩ = Function.update t c (some v) := by
    cases v with
    | null => exact absurd rfl hv
    | _ => rfl
  rw [assigned, List.foldl_cons, List.foldl_nil, given, ht]
  funext d
  by_cases h : d = c
  · subst h
    simp
  · simp [Function.update_of_ne h]

theorem translates_absoluteMode :
    Translates [.verb (.set (.mode .positioning (.int 90))) false false]
      (tells params .absoluteMode) := by
  refine translates_set (s := .mode .positioning (.int 90)) trivial
    (Setting.assignments_mode (by decide)) (by simp) (by simp) ?_
  funext c
  cases c with
  | mode m => cases m <;> simp [Function.update, tells]
  | _ => simp [Function.update, tells]

theorem planeCode_of_symbol? {v : Value} {p : Plane} (h : v.symbol? = some (.plane p)) :
    planeCode v = .ok p.code := by
  rw [planeCode, h]

theorem translates_plane {v : Value} {p : Plane} (hv : params.lookup "machine_plane" = some v)
    (hp : v.symbol? = some (.plane p)) :
    Translates [.verb (.set (.plane v)) false false] (tells params .machinePlane) := by
  have code := planeCode_of_symbol? hp
  have assigned : (Setting.plane v).assignments = .ok [⟨.plane, .int p.code⟩] := by
    rw [Setting.assignments, code]
    rfl
  refine translates_set (s := .plane v) trivial assigned (by simp) (by simp) ?_
  funext c
  cases c <;> simp [Function.update, tells, hv, code, Except.toOption]

theorem translates_tool {name : Value} {s : String} (hs : name.text? = some s)
    (hq : '"' ∉ s.toList) (ht : tells params .changeTool .tool = some name) :
    Translates [.verb (.changeTool name) false false] (tells params .changeTool) := by
  have modal : (Verb.changeTool name).IsModal := List.forall_mem_singleton.mpr (.inr ⟨s, hs⟩)
  have legible : ∀ a ∈ (Verb.changeTool name).assigned, a.IsLegible := by
    intro a ha
    obtain rfl := List.mem_singleton.mp ha
    intro _ t e
    obtain rfl := Option.some.inj (hs.symm.trans e)
    exact hq
  refine translates_verb modal rfl legible fun t => ?_
  have given : t.give ⟨.tool, name⟩ = Function.update t .tool (some name) := by
    cases name <;> first | rfl | cases hs
  refine given.trans ?_
  funext c
  cases c <;> simp [Function.update, ht] <;> simp [tells]

theorem isClosed_directionCalls :
    ∀ call ∈ directionCalls params, call.IsClosed ∧ call.endsLine = false := by
  intro call hc
  rw [directionCalls] at hc
  cases hd : directionCode (params.get "spin_direction") with
  | error e =>
      rw [hd] at hc
      cases hc
  | ok i =>
      rw [hd] at hc
      obtain rfl := List.mem_singleton.mp hc
      have accepted : (Verb.set (.direction (params.get "spin_direction"))).refusal = .ok () := by
        rw [Verb.refusal, Setting.assignments, hd]
        rfl
      exact ⟨isClosed_verb (Verb.isModal_set (s := .direction _) trivial) accepted
        (isLegible_assigned (by simp)) _ _, rfl⟩

/-- The direction is told if it is one of the spindle. -/
theorem readAll_directionCalls (s : Told) :
    s.control.readAll ((directionCalls params).flatMap Call.full) = Told.control
      (Function.update s .direction ((tells params .feedSpin .direction).or (s .direction))) := by
  rw [directionCalls, tells_direction]
  cases hd : directionCode (params.get "spin_direction") with
  | error e => exact congrArg Told.control (Function.update_eq_self _ s).symm
  | ok i =>
      have assigned : (Setting.direction (params.get "spin_direction")).assignments =
          .ok [⟨.direction, .int i⟩] := by
        rw [Setting.assignments, hd]
        rfl
      show s.control.readAll
        ([Call.verb (.set (.direction (params.get "spin_direction"))) false true].flatMap
          Call.full) = _
      have modal : (Verb.set (.direction (params.get "spin_direction"))).IsModal :=
        Verb.isModal_set (s := .direction _) trivial
      rw [List.flatMap_singleton, Call.full, s.readAll_full modal, Verb.assigned_set,
        Setting.assigned_of_ok assigned]
      rfl

/-- Speed and direction are written on one line. -/
theorem translates_spin (h : params.IsNumberAt "spin") :
    Translates (.verb (.set (.speed (params.get "spin"))) false true :: directionCalls params ++
      [.flush]) (tells params .feedSpin) := by
  have taken : (Setting.speed (params.get "spin")).IsModal := get_isNumber h
  have speed : (Call.verb (.set (.speed (params.get "spin"))) false true).IsClosed :=
    isClosed_verb (Verb.isModal_set taken) rfl (isLegible_assigned (by simp)) _ _
  refine ⟨.words (List.forall_mem_cons.mpr ⟨⟨speed, rfl⟩, isClosed_directionCalls⟩) isClosed_flush
    rfl, fun s => ?_⟩
  have spoken : s.control.readAll (Verb.set (.speed (params.get "spin"))).full =
      Told.control (Function.update s .speed ((params.lookup "spin").or (s .speed))) := by
    rw [s.readAll_full (Verb.isModal_set taken), ← Told.give_get s .speed (lookup_ne_null h)]
    rfl
  have flushed : [Call.flush].flatMap Call.full = [] := rfl
  rw [List.flatMap_append, List.flatMap_cons, flushed, List.append_nil, Control.readAll_append,
    Call.full, spoken, readAll_directionCalls]
  refine congrArg Told.control (funext fun c => ?_)
  cases c <;> simp [Function.update, tells]

/-! ### Handlers -/

theorem translates_machinePlane (he : machinePlane.Expects params) :
    ∃ made, machinePlane.calls params = .ok made ∧
      Translates made (tells params .machinePlane) := by
  rw [calls, Params.get]
  cases hv : params.lookup "machine_plane" with
  | none =>
      have nothing : tells params .machinePlane = fun _ => none := by
        funext c
        cases c <;> simp [tells, hv]
      exact ⟨[], rfl, nothing ▸ translates_silent .nothing fun _ => rfl⟩
  | some v =>
      obtain ⟨p, hp⟩ := he v hv
      refine ⟨[.verb (.set (.plane v)) false false], ?_, translates_plane hv hp⟩
      cases v <;> first | rfl | cases hp

/-- A tool has a name without quotes. -/
theorem toolName_eq {v : Value} (hv : v.IsNumber ∨ v.IsToolName) :
    toolName v = .ok (named v) ∧ ∃ s, (named v).text? = some s ∧ '"' ∉ s.toList := by
  rcases hv with hv | ⟨s, hs, -, hq⟩
  · have digits : named v = .text (String.ofList v.digits) := by
      cases v <;> first | rfl | exact hv.elim
    have name : toolName v = v.plain.map .text := by
      cases v <;> first | rfl | exact hv.elim
    refine ⟨by rw [name, Value.plain_eq_digits hv, digits]; rfl, _, by rw [digits]; rfl, ?_⟩
    rw [String.toList_ofList]
    intro quote
    have ordinary := isOrdinary_of_isPlainDigit fun _ => Value.isPlainDigit_of_mem_digits hv
    exact (ordinary _ quote).2.2 rfl
  · have kept : named v = v := by
      rw [named, hs]
    rw [kept]
    refine ⟨?_, s, hs, hq⟩
    cases v <;> first | rfl | cases hs

/-- The tool that an event names, else the one that it numbers. -/
theorem translates_changeTool (he : changeTool.Expects params) :
    ∃ made, changeTool.calls params = .ok made ∧ Translates made (tells params .changeTool) := by
  have tool : ∀ v, toolOf params = v → v.IsNumber ∨ v.IsToolName →
      (params.lookup "tool_id_string").or (params.lookup "tool_number") = some v →
      ∃ made, changeTool.calls params = .ok made ∧ Translates made (tells params .changeTool) := by
    intro v ht hv hl
    obtain ⟨name, s, hs, hq⟩ := toolName_eq hv
    refine ⟨[.verb (.changeTool (named v)) false false], ?_, translates_tool hs hq ?_⟩
    · rw [calls, ht]
      cases v
      case null =>
        obtain number | ⟨_, e, _⟩ := hv
        · exact number.elim
        · cases e
      all_goals exact congrArg (Except.map _) name
    · rw [tells, hl]
      rfl
  obtain ⟨named, numbered⟩ := he
  cases hi : params.lookup "tool_id_string" with
  | some v =>
      obtain ⟨s, hs, hne, hq⟩ := named v hi
      refine tool v ?_ (.inr ⟨s, hs, hne, hq⟩) (by rw [hi]; rfl)
      have truthy : v.truthy = true := by
        cases v <;> cases hs
        · simpa [Value.truthy] using hne
        · rfl
      rw [toolOf, Params.get, hi]
      exact if_pos truthy
  | none =>
      have second : toolOf params = params.get "tool_number" := by
        rw [toolOf, Params.get, hi]
        rfl
      cases hn : params.lookup "tool_number" with
      | some v =>
          refine tool v ?_ (numbered v hn) (by rw [hi, hn]; rfl)
          rw [second, Params.get, hn]
          rfl
      | none =>
          have nothing : tells params .changeTool = fun _ => none := by
            funext c
            cases c <;> simp [tells, hi, hn]
          refine ⟨[], ?_, nothing ▸ translates_silent .nothing fun _ => rfl⟩
          rw [calls, second, Params.get, hn]
          rfl

theorem translates_message (hs : params.AreScalar) :
    ∃ made, message.calls params = .ok made ∧ Translates made (tells params .message) := by
  obtain ⟨text, ht⟩ : ∃ text, ((params.lookup "message").getD (.text "")).written = .ok text := by
    cases hm : params.lookup "message" with
    | none => exact ⟨_, rfl⟩
    | some v => exact written_of_isScalar (hs.lookup hm)
  obtain ⟨word, hw⟩ : ∃ word, Writer.wordOf (.text text) = .ok word := by
    rw [Writer.wordOf]
    split <;> exact ⟨_, rfl⟩
  have nothing : tells params .message = fun _ => none := by
    funext c
    cases c <;> simp [tells]
  refine ⟨[.comment (.text text) false], by rw [calls, ht]; rfl, ?_⟩
  rw [nothing]
  refine translates_silent (.comment hw) fun k => ?_
  have modal : (Call.comment (.text text) false).IsModal := trivial
  rcases modal.verb_or_silent with ⟨v, force, noFlush, e, -⟩ | silent
  · cases e
  · rw [List.flatMap_singleton]
    exact silent.readAll_full k

theorem translates_endOfFile :
    Translates [.put (.text "M30") true] (tells params .endOfFile) := by
  have nothing : tells params .endOfFile = fun _ => none := by
    funext c
    cases c <;> simp [tells]
  have full : (Call.put (.text "M30") true).full = ["M30"] := by decide
  have modal : (Call.put (.text "M30") true).IsModal := by
    intro text ht
    obtain rfl : "M30" = text := Except.ok.inj ht
    decide
  have closed : ∀ w ∈ ["M30"], Text.IsClosed w.toList :=
    List.forall_mem_singleton.mpr (by decide : Text.IsOrdinary "M30".toList).isClosed
  rw [nothing]
  refine translates_silent (Call.IsClosed.isLine ⟨modal, rfl, full ▸ closed⟩ rfl) fun k => ?_
  rw [List.flatMap_singleton, full]
  rfl

/-- **A handler** that finds what it expects makes calls that write one line, which tells what the
event tells. -/
theorem translates_calls (hs : params.AreScalar) {h : Handler} (he : h.Expects params) :
    ∃ made, h.calls params = .ok made ∧ Translates made (h.tells params) := by
  cases h with
  | feedSpin => exact ⟨_, rfl, translates_spin he⟩
  | rapidMove => exact ⟨_, rfl, translates_rapid he⟩
  | line => exact ⟨_, rfl, translates_line he⟩
  | absoluteMode => exact ⟨_, rfl, translates_absoluteMode⟩
  | machinePlane => exact translates_machinePlane he
  | changeTool => exact translates_changeTool he
  | message => exact translates_message hs
  | endOfFile => exact ⟨_, rfl, translates_endOfFile⟩

end Handler

/-! ### Events -/

/-- **An event** that is sound is translated, whatever was told before it. -/
theorem translates_event {e : Event} (hs : e.params.AreScalar) (he : e.IsSound) :
    standardCalls e.name e.params = .ok e.calls ∧ IsLine e.calls ∧
      ∀ s : Told, s.control.readAll (e.calls.flatMap Call.full) = (s.after e).control := by
  have made : ∀ {made : List Call}, standardCalls e.name e.params = .ok made → e.calls = made := by
    intro made hm
    rw [Event.calls, hm]
    rfl
  cases ho : Handler.ofEvent? e.name with
  | none =>
      have none : standardCalls e.name e.params = .ok [] := by rw [standardCalls, ho]
      rw [made none]
      refine ⟨none, .nothing, fun s => ?_⟩
      rw [Told.after, ho]
      rfl
  | some h =>
      obtain ⟨calls, hc, ht⟩ := Handler.translates_calls hs (he h ho)
      have some : standardCalls e.name e.params = .ok calls := by
        rw [standardCalls, ho]
        exact hc
      rw [made some]
      refine ⟨some, ht.line, fun s => ?_⟩
      rw [ht.control, Told.after, ho]

/-- **The events of a trace**, one after the other.  `s` is what was told before them. -/
theorem events_run {events : List Event} (he : ∀ e ∈ events, e.params.AreScalar ∧ e.IsSound)
    {s : Told} (h : Written c count calls w) (hnil : w.files.main.pending = [])
    (hs : Control.blank.readAll (calls.flatMap Call.full) = s.control)
    (hp : c.numbering.Prints (count + events.length)) :
    Writes c (count + events.length) calls (events.flatMap Event.calls) w ∧
      (w.runAll (events.flatMap Event.calls)).files.main.pending = [] ∧
      Control.blank.readAll ((calls ++ events.flatMap Event.calls).flatMap Call.full) =
        (events.foldl Told.after s).control := by
  -- each event starts a line of its own, since the one before has ended its line
  induction events generalizing count calls w s with
  | nil => exact ⟨h.nil, hnil, by rwa [List.flatMap_nil, List.append_nil]⟩
  | cons e events ih =>
      obtain ⟨scalar, sound⟩ := he e (List.mem_cons_self ..)
      obtain ⟨-, line, control⟩ := translates_event scalar sound
      have size : count + (e :: events).length = count + 1 + events.length := by
        rw [List.length_cons]
        omega
      rw [size] at hp ⊢
      obtain ⟨writes, nil⟩ := line_step line h hnil (hp.mono (Nat.le_add_right _ _))
      have told : Control.blank.readAll ((calls ++ e.calls).flatMap Call.full) =
          (s.after e).control := by
        rw [List.flatMap_append, Control.readAll_append, hs, control]
      obtain ⟨more, nil', told'⟩ := ih (fun d hd => he d (List.mem_cons_of_mem _ hd))
        writes.written nil told hp
      rw [List.flatMap_cons]
      refine ⟨writes.append more, ?_, ?_⟩
      · rw [Writer.runAll_append]
        exact nil'
      · rw [← List.append_assoc]
        exact told'

/-- What is told by the first `n` events of a trace. -/
theorem events_take (c : Config) {events : List Event}
    (he : ∀ e ∈ events, e.params.AreScalar ∧ e.IsSound) (hp : c.numbering.Prints events.length)
    (n : Nat) :
    Writes c (events.take n).length [] ((events.take n).flatMap Event.calls) (.start c) ∧
      ((Writer.start c).runAll ((events.take n).flatMap Event.calls)).files.main.pending = [] ∧
      Control.blank.readAll (((events.take n).flatMap Event.calls).flatMap Call.full) =
        (Told.ofEvents (events.take n)).control := by
  have front : ∀ e ∈ events.take n, e.params.AreScalar ∧ e.IsSound :=
    fun e hmem => he e (List.mem_of_mem_take hmem)
  have prints : c.numbering.Prints (0 + (events.take n).length) := by
    refine hp.mono ?_
    rw [Nat.zero_add]
    exact List.length_take_le' n events
  have run := events_run front (written_start c) rfl (s := .nothing) rfl prints
  rwa [Nat.zero_add] at run

/-- The lines of the first `n` events are the first lines of all events. -/
theorem lines_take (c : Config) {events : List Event}
    (he : ∀ e ∈ events, e.params.AreScalar ∧ e.IsSound) (hp : c.numbering.Prints events.length)
    (n : Nat) :
    ((Writer.start c).runAll ((events.take n).flatMap Event.calls)).files.main.lines.toList <+:
      ((Writer.start c).runAll (events.flatMap Event.calls)).files.main.lines.toList := by
  obtain ⟨front, nil, told⟩ := events_take c he hp n
  have back : ∀ e ∈ events.drop n, e.params.AreScalar ∧ e.IsSound :=
    fun e hmem => he e (List.mem_of_mem_drop hmem)
  have prints : c.numbering.Prints ((events.take n).length + (events.drop n).length) := by
    rwa [← List.length_append, List.take_append_drop]
  have more := (events_run back front.written nil told prints).1.lines
  rwa [← Writer.runAll_append, ← List.flatMap_append, List.take_append_drop] at more

/-! ### Traces -/

/-- The numbers of the default numbering last for all files of less than ten to the power of 4299
lines. -/
theorem prints_default {count : Nat} (h : count < 10 ^ (digitLimit - 1)) :
    Numbering.Prints {} count := by
  intro _ k hk
  have key : ∀ digits, 0 < digits → count < 10 ^ (digits - 1) →
      ((10 : Int) + k * 10).natAbs < 10 ^ digits := by
    rintro (_ | digits) hd hc
    · exact absurd hd (by decide)
    · rw [Nat.pow_succ']
      rw [Nat.add_sub_cancel] at hc
      generalize 10 ^ digits = most at hc ⊢
      omega
  rw [isPrintable_iff]
  exact key digitLimit (by decide) h

namespace Program

/-- Loads records and dispatches the first `n` of them to the standard handlers. -/
def translating (records : List Trace.Record) (n : Nat) : Step (Program Handler) Unit := do
  addStandard id
  load records
  processFirst Handler.listener n

/-- A program that has the standard handlers and the events of records. -/
def loaded (w : Writer) (records : List Trace.Record) (journal : Array (Entry Handler)) :
    Program Handler := ⟨w, (records.map Trace.Record.event).toArray, Handler.registry, journal⟩

theorem run_loaded (w : Writer) (records : List Trace.Record) : ∃ journal,
    ∀ step : Step (Program Handler) Unit, (start w).run (do
        addStandard id
        load records
        step) = step (loaded w records journal) := by
  obtain ⟨_, added⟩ := Handler.addStandard_eq w
  obtain ⟨journal, read⟩ := load_eq records ⟨w, #[], Handler.registry, _⟩
  refine ⟨journal, fun step => ?_⟩
  rw [run, Step.bind_of_ok added, Step.bind_of_ok read, loaded, Array.empty_append]

/-- The first `n` events are processed without a failure. -/
theorem processFirst_loaded (c : Config) {records : List Trace.Record}
    (he : ∀ e ∈ records.map Trace.Record.event, e.params.AreScalar ∧ e.IsSound)
    (hp : c.numbering.Prints records.length) (journal : Array (Entry Handler)) (n : Nat) : ∃ q,
    processFirst Handler.listener n (loaded (.start c) records journal) = (.ok (), q) ∧
      q.writer = (Writer.start c).runAll
        (((records.map Trace.Record.event).take n).flatMap Event.calls) := by
  have calls : ∀ e ∈ (loaded (.start c) records journal).events.toList,
      standardCalls e.name e.params = .ok e.calls :=
    fun e hmem => (translates_event (he e hmem).1 (he e hmem).2).1
  have accepts := (events_take c he ((List.length_map _).symm ▸ hp) n).1.accepts
  obtain ⟨_, first⟩ := makes_processFirst rfl calls n accepts
  exact ⟨_, first, rfl⟩

/-- The program has translated the first `n` records: none of them took more than one line, the last
line is ended, and a control that reads the lines holds what the records have told. -/
structure Translated (records : List Trace.Record) (n : Nat) (p : Program Handler) : Prop where
  lines : p.writer.files.main.lines.size ≤ n
  ended : p.writer.files.main.pending = []
  control : Control.blank.readLines (p.writer.files.main.lines.toList.map Line.text) =
    (Told.ofEvents ((records.take n).map Trace.Record.event)).control

/-- A tool whose name holds a semicolon, and two moves that give one coordinate twice. -/
def sampleTrace : String :=
  "(0)@change_tool tool_id_string: 'EM; 10'\n(1)@rapid_move xpos: 10\n" ++
  "(2)@line xpos: 10 zpos: -1.5 feed: 60"

/-- What this trace tells in the end. -/
example : [Channel.axis .x, .axis .y, .axis .z, .mode .motion, .feed, .tool].map
      (Told.ofEvents ((Trace.records sampleTrace).toList.map Trace.Record.event)).control =
    [some "X10", none, some "Z-1.5", some "G1", some "F60", some "T=\"EM; 10\""] := by
  rw [show sampleTrace = String.ofList _ ++ String.ofList _ from rfl, ← String.ofList_append,
    Trace.records_ofList]
  decide +kernel

end Program

end Postprocessor
