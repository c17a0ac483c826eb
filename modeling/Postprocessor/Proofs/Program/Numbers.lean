import Postprocessor.Proofs.Decimal.Plain
import Postprocessor.Proofs.Machine.Writings
import Postprocessor.Proofs.Program.Effects

/-!
# Proofs — the numbers of a trace

A number of a trace is read into the binary format, handed on by the handler of its event, and
written after the address of a channel.  Every finite one comes out as a plain number, whatever
numeral it was read from.  A numeral beyond the finite numbers is read as an infinity, and comes out
as its name.

* `Channel.parameter?`, `Call.TakesFrom`: the parameter that a channel is given, and calls that give
  it no other value; `takesFrom_calls` says that the handlers make such calls.
* `Binary64.IsSpelled`, `isSpelled_records`: what the numbers of a trace are written as.
* `Program.numbers_spelled`: the words for the numbers of a trace.
* `spelled_overflow`: the word for a numeral beyond the finite numbers.
-/

namespace Postprocessor

/-! ### Parameters -/

/-- The parameter that gives the value of a channel. -/
def Channel.parameter? : Channel → Option String
  | .axis .x => some "xpos"
  | .axis .y => some "ypos"
  | .axis .z => some "zpos"
  | .feed => some "feed"
  | .speed => some "spin"
  | _ => none

/-- Of every channel with a parameter the setting assigns the value of that. -/
def Setting.TakesFrom (params : Params) (s : Setting) : Prop :=
  ∀ as, s.assignments = .ok as → ∀ a ∈ as, ∀ key, a.channel.parameter? = some key →
    a.value = params.get key

/-- All settings of a verb take from the parameters; a call of another kind takes nothing. -/
def Call.TakesFrom (params : Params) : Call → Prop
  | .verb v _ _ => ∀ s ∈ v.settings, s.TakesFrom params
  | _ => True

namespace Setting

variable {params : Params}

/-- A setting of channels that have no parameter. -/
theorem takesFrom_of_none {s : Setting}
    (h : ∀ as, s.assignments = .ok as → ∀ a ∈ as, a.channel.parameter? = none) :
    s.TakesFrom params := by
  intro as has a ha key hk
  rw [h as has a ha] at hk
  cases hk

theorem takesFrom_mode (m : Mode) (code : Value) : (mode m code).TakesFrom params := by
  refine takesFrom_of_none fun as has => ?_
  obtain ⟨_, -, rfl⟩ := map_eq_ok has
  exact List.forall_mem_singleton.mpr rfl

theorem takesFrom_plane (p : Value) : (plane p).TakesFrom params := by
  refine takesFrom_of_none fun as has => ?_
  obtain ⟨_, -, rfl⟩ := map_eq_ok has
  exact List.forall_mem_singleton.mpr rfl

theorem takesFrom_direction (d : Value) : (direction d).TakesFrom params := by
  refine takesFrom_of_none fun as has => ?_
  obtain ⟨_, -, rfl⟩ := map_eq_ok has
  exact List.forall_mem_singleton.mpr rfl

theorem takesFrom_tool (name : Value) : (tool name).TakesFrom params := by
  refine takesFrom_of_none fun as has => ?_
  cases has
  exact List.forall_mem_singleton.mpr rfl

theorem takesFrom_feed : (feed (params.get "feed")).TakesFrom params := by
  rintro as ⟨⟩ a ha key hk
  obtain rfl := List.mem_singleton.mp ha
  cases hk
  rfl

theorem takesFrom_speed : (speed (params.get "spin")).TakesFrom params := by
  rintro as ⟨⟩ a ha key hk
  obtain rfl := List.mem_singleton.mp ha
  cases hk
  rfl

theorem takesFrom_position : (position (Handler.target params)).TakesFrom params := by
  rintro as ⟨⟩ a ha key hk
  obtain ⟨axis, -, rfl⟩ := List.mem_map.mp ha
  cases axis with
  | x | y | z => cases hk; rfl
  | a | b | c => cases hk

end Setting

namespace Handler

variable {params : Params}

/-- The settings of a move. -/
theorem takesFrom_move (code : Int) :
    ∀ s ∈ [Setting.mode .motion (.int code), .position (target params)], s.TakesFrom params :=
  List.forall_mem_cons.mpr ⟨Setting.takesFrom_mode .motion _,
    List.forall_mem_singleton.mpr Setting.takesFrom_position⟩

theorem takesFrom_set {s : Setting} (h : s.TakesFrom params) (force noFlush : Bool) :
    (Call.verb (.set s) force noFlush).TakesFrom params := List.forall_mem_singleton.mpr h

theorem takesFrom_directionCalls : ∀ call ∈ directionCalls params, call.TakesFrom params := by
  rw [directionCalls]
  split
  · exact List.forall_mem_singleton.mpr (takesFrom_set (Setting.takesFrom_direction _) _ _)
  · exact List.forall_mem_nil _

/-- **A handler** gives the channels their own parameters. -/
theorem takesFrom_calls {handler : Handler} {made : List Call}
    (hm : handler.calls params = .ok made) : ∀ call ∈ made, call.TakesFrom params := by
  cases handler with
  | feedSpin =>
      cases hm
      exact List.forall_mem_append.mpr ⟨List.forall_mem_cons.mpr
        ⟨takesFrom_set Setting.takesFrom_speed _ _, takesFrom_directionCalls⟩,
        List.forall_mem_singleton.mpr trivial⟩
  | rapidMove =>
      cases hm
      exact List.forall_mem_singleton.mpr (takesFrom_move 0)
  | line =>
      cases hm
      exact List.forall_mem_singleton.mpr (List.forall_mem_append.mpr ⟨takesFrom_move 1,
        List.forall_mem_singleton.mpr Setting.takesFrom_feed⟩)
  | absoluteMode =>
      cases hm
      exact List.forall_mem_singleton.mpr (takesFrom_set (Setting.takesFrom_mode _ _) _ _)
  | machinePlane =>
      rw [calls] at hm
      split at hm <;> cases hm
      · exact List.forall_mem_nil _
      · exact List.forall_mem_singleton.mpr (takesFrom_set (Setting.takesFrom_plane _) _ _)
  | changeTool =>
      rw [calls] at hm
      split at hm
      · cases hm
        exact List.forall_mem_nil _
      · obtain ⟨name, -, rfl⟩ := map_eq_ok hm
        exact List.forall_mem_singleton.mpr
          (List.forall_mem_singleton.mpr (Setting.takesFrom_tool name))
  | message =>
      obtain ⟨text, -, rfl⟩ := map_eq_ok hm
      exact List.forall_mem_singleton.mpr trivial
  | endOfFile =>
      cases hm
      exact List.forall_mem_singleton.mpr trivial

end Handler

theorem Event.takesFrom_calls {e : Event} {call : Call} (h : call ∈ e.calls) :
    call.TakesFrom e.params := by
  rw [calls] at h
  cases made : standardCalls e.name e.params with
  | error _ =>
      rw [made] at h
      cases h
  | ok calls =>
      rw [made] at h
      rw [standardCalls] at made
      split at made
      · exact Handler.takesFrom_calls made call h
      · cases made
        cases h

/-! ### Numbers -/

/-- A finite number is written as a plain number, and an infinity by its name. -/
def Binary64.IsSpelled (x : Binary64) : Prop :=
  match x with
  | .finite .. => IsPlainNumber x.plainText
  | .infinite negative => x.plainText = (if negative then "-inf" else "inf").toList
  | .undefined _ => False

theorem Binary64.isSpelled_nearest (s : Bool) (num den : Nat) : (nearest s num den).IsSpelled := by
  simp only [nearest]
  split
  · exact isPlainNumber_plainText s _
  · exact rfl

theorem Decimal.isSpelled_toBinary64 (d : Decimal) : d.toBinary64.IsSpelled := by
  rw [toBinary64]
  split
  · exact Binary64.isPlainNumber_plainText _ _
  split
  · exact rfl
  split <;> exact Binary64.isSpelled_nearest _ _ _

/-- If the value is a number, its text is as above. -/
def Value.IsSpelled (v : Value) : Prop := ∀ x, v = .float x → x.IsSpelled

namespace Trace

theorem isSpelled_ofToken (token : List Char) : (Value.ofToken token).IsSpelled := by
  rintro x hx
  rw [Value.ofToken] at hx
  split at hx
  · cases hx
  split at hx
  · cases hx
  split at hx
  · cases hx
    exact Decimal.isSpelled_toBinary64 _
  split at hx <;> cases hx

/-- **The numbers of a trace** are spelled so. -/
theorem isSpelled_records (text : String) :
    ∀ record ∈ (records text).toList, ∀ e ∈ record.params, e.2.IsSpelled := by
  refine forall_records fun line _ a _ => ?_
  rw [Assignment.value]
  split
  · rintro x ⟨⟩
  · exact isSpelled_ofToken _

end Trace

/-- What is written for a number on a channel with a parameter: its text, or nothing. -/
theorem Writing.Arises.of_float {s : Setting} {force : Bool} {w : Writing} (h : w.Arises s force)
    {key : String} (hk : w.channel.parameter? = some key) {x : Binary64}
    (hx : w.value = .float x) :
    w.written = "" ∨ w.written = w.channel.address ++ String.ofList x.plainText := by
  obtain ⟨-, m, hm⟩ := h
  have plain : w.channel.style = .plain := by
    obtain ⟨⟨channel, value⟩, written⟩ := w
    cases channel with
    | tool => cases hk
    | _ => rfl
  rw [hx, Machine.write_eq (by simp), plain] at hm
  split at hm
  · exact .inl (Except.ok.inj hm).symm
  · exact .inr (Except.ok.inj hm).symm

namespace Program

/-- **The numbers of a trace** are plain numbers in the program.  What is written for a trace is
written by calls for its records.  On whatever machine such a call is made, the texts of its verb
are put together from its writings; and where a number of the record gives the coordinate, the feed
or the speed, what is written for it is the address of its channel and its text, unless it is left
out.  The text of a finite number is a plain number, and that of any other number is the name of an
infinity. -/
theorem numbers_spelled (c : Config) (text : String) :
    let records := (Trace.records text).toList
    (∃ calls, (∀ call ∈ calls, ∃ r ∈ records, call ∈ r.event.calls) ∧
      (processed c records).2.writer = (Writer.start c).runAll calls) ∧
    ∀ r ∈ records, ∀ v force noFlush, Call.verb v force noFlush ∈ r.event.calls → ∀ m groups,
      (v.writings force m).1 = .ok groups →
        (v.words force m).1 = .ok (groups.map Verb.textOf ++ v.actions) ∧
        ∀ g ∈ groups, ∀ w ∈ g.2, ∀ key, w.channel.parameter? = some key →
          w.value = r.params.get key ∧
          ∀ x, r.params.lookup key = some (.float x) → x.IsSpelled ∧
            (w.written = "" ∨ w.written = w.channel.address ++ String.ofList x.plainText) := by
  intro records
  refine ⟨drives_processed c fun r hr made hm call hc => ⟨r, hr, ?_⟩, ?_⟩
  · rw [Event.calls, hm]
    exact hc
  · intro r hr v force noFlush hv m groups written
    refine ⟨?_, fun g hg w hw key hk => ?_⟩
    · rw [Verb.words_eq, ← bind_pure_comp, Step.run_bind, written]
      rfl
    · obtain ⟨setting, arises⟩ := Verb.arises_writings written g hg
      have arisen := arises w hw
      obtain ⟨as, has, assigned⟩ := arisen.assigned
      have value := Event.takesFrom_calls hv g.1 setting as has _ assigned key hk
      refine ⟨value, fun x hx => ?_⟩
      have number : w.value = .float x := by
        rw [value]
        show (r.params.lookup key).getD .null = _
        rw [hx]
        rfl
      exact ⟨Params.forall_lookup (Trace.isSpelled_records text r hr) hx x rfl,
        arisen.of_float hk number⟩

/-- A small number, a digit of another script, and a unit. -/
example : (processed {} (Trace.records
      "(0)@line xpos: 1e-7 ypos: \u0663.5mm zpos: -.50").toList).2.writer.files.main.text =
    "N10 G1 X0.0000001 Y3.5 Z-0.5" := by
  rw [Trace.records_ofList]
  decide +kernel

/-- A move to coordinates beyond the finite numbers. -/
def overflowTrace : String := "(0)@rapid_move xpos: 1e999 ypos: -1e400mm"

/-- They are numbers of the trace, and what is written for them are no plain numbers. -/
theorem spelled_overflow :
    (Trace.records overflowTrace).toList.map (fun r => (r.params.get "xpos", r.params.get "ypos")) =
        [(.float (.infinite false), .float (.infinite true))] ∧
      (processed {} (Trace.records overflowTrace).toList).2.writer.files.main.text =
        "N10 G0 Xinf Y-inf" ∧
      ¬ IsPlainNumber "inf".toList ∧ ¬ IsPlainNumber "-inf".toList := by
  rw [overflowTrace, Trace.records_ofList]
  refine ⟨rfl, by decide +kernel, fun plain => ?_, fun plain => ?_⟩
  · exact absurd (plain.isPlainDigit 'i' (by decide)) (by unfold IsPlainDigit; decide)
  · exact absurd (plain.isPlainDigit 'i' (by decide)) (by unfold IsPlainDigit; decide)

end Program

end Postprocessor
