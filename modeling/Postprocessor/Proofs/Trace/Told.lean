import Postprocessor.Proofs.Control.Lines
import Postprocessor.Proofs.Program.Dispatch

/-!
# Proofs — what a trace tells of the machine

The events of a trace that have a standard handler tell where the machine moves and how it is set.
Of every channel the trace tells what the last event told that spoke of it.

* `Handler.tells`: what an event tells of a channel.
* `Told`, `Told.after`, `Told.ofEvents`: what was told of every channel, after one more event, and
  by all events of a trace.
* `Told.control`: the control that has read the words for all this.
* `Told.give`, `readAll_full`: reading the words of a verb is being told its assignments.
-/

namespace Postprocessor

/-! ### What an event tells -/

namespace Handler

/-- The coordinate that an event gives for an axis. -/
def coordinate (params : Params) : Axis → Option Value
  | .x => params.lookup "xpos"
  | .y => params.lookup "ypos"
  | .z => params.lookup "zpos"
  | _ => none

/-- A tool by its name: that of a number are its digits. -/
def named (tool : Value) : Value :=
  match tool.text? with
  | some _ => tool
  | none => .text (String.ofList tool.digits)

/-- What an event of the handler tells of a channel. -/
def tells (params : Params) : Handler → Channel → Option Value
  | .rapidMove, .mode .motion => some (.int 0)
  | .line, .mode .motion => some (.int 1)
  | .rapidMove, .axis of | .line, .axis of => coordinate params of
  | .line, .feed => params.lookup "feed"
  | .feedSpin, .speed => params.lookup "spin"
  | .feedSpin, .direction =>
    (params.lookup "spin_direction").bind fun d => (directionCode d).toOption.map .int
  | .absoluteMode, .mode .positioning => some (.int 90)
  | .machinePlane, .plane =>
    (params.lookup "machine_plane").bind fun p => (planeCode p).toOption.map .int
  | .changeTool, .tool =>
    ((params.lookup "tool_id_string").or (params.lookup "tool_number")).map named
  | _, _ => none

/-- A direction that is left out is none that a spindle has. -/
theorem tells_direction {params : Params} : tells params .feedSpin .direction =
    (directionCode (params.get "spin_direction")).toOption.map .int := by
  rw [tells, Params.get]
  cases params.lookup "spin_direction" <;> rfl

end Handler

/-- What was told of every channel. -/
abbrev Told := Channel → Option Value

namespace Told

/-- Nothing told. -/
def nothing : Told := fun _ => none

/-- What was told after an event: what the event tells, and else what was told before. -/
def after (s : Told) (e : Event) : Told :=
  match Handler.ofEvent? e.name with
  | some h => fun c => (h.tells e.params c).or (s c)
  | none => s

/-- What the events of a trace tell together. -/
def ofEvents (events : List Event) : Told := events.foldl after nothing

/-- The control that has read the word for everything that was told. -/
def control (s : Told) : Control := fun c => (s c).map c.word

/-- What was told after a channel was given a value; null tells nothing. -/
def give (s : Told) (a : Assignment) : Told :=
  match a.value with
  | .null => s
  | v => Function.update s a.channel (some v)

/-- The word of an assignment is read as the assignment is told. -/
theorem control_give (s : Told) {a : Assignment} (ha : a.IsTaken) :
    s.control.read a.word = (s.give a).control := by
  obtain ⟨c, v⟩ := a
  rcases ha with rfl | ha
  · rfl
  · have spelled : Assignment.word ⟨c, v⟩ = c.word v := Channel.wordOrNone_of_admits ha
    have given : s.give ⟨c, v⟩ = Function.update s c (some v) := by
      cases v with
      | null => exact absurd ha Channel.not_admits_null
      | _ => rfl
    rw [spelled, given, Control.read_of_group (Control.group?_word ha)]
    funext d
    by_cases h : d = c
    · subst h
      simp [control]
    · simp [control, Function.update_of_ne h]

theorem control_giveAll (s : Told) {as : List Assignment} (ha : ∀ a ∈ as, a.IsTaken) :
    s.control.readAll (as.map Assignment.word) = (as.foldl give s).control := by
  induction as generalizing s with
  | nil => rfl
  | cons a as ih =>
      rw [List.map_cons, Control.readAll_cons, control_give s (ha a (List.mem_cons_self ..)),
        List.foldl_cons]
      exact ih _ fun b hb => ha b (List.mem_cons_of_mem _ hb)

/-- **A verb** in full is read as its assignments are told. -/
theorem readAll_full (s : Told) {v : Verb} (hv : v.IsModal) :
    s.control.readAll v.full = (v.assigned.foldl give s).control := by
  rw [Verb.full, Control.readAll_append, readAll_actions, Control.readAll_filter,
    control_giveAll s (Verb.isTaken_assigned hv)]

/-- A parameter tells its value, and nothing if it is left out. -/
theorem give_get (s : Told) (c : Channel) {params : Params} {key : String}
    (hv : params.lookup key ≠ some .null) :
    s.give ⟨c, params.get key⟩ = Function.update s c ((params.lookup key).or (s c)) := by
  rw [Params.get]
  cases h : params.lookup key with
  | none =>
      show s = _
      rw [Option.none_or, Function.update_eq_self]
  | some v =>
      rw [h] at hv
      cases v with
      | null => exact absurd rfl hv
      | _ => rfl

end Told

end Postprocessor
