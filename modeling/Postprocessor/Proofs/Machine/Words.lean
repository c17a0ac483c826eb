import Postprocessor.Proofs.Machine.Values
import Postprocessor.Proofs.Running
import Postprocessor.Writer

/-!
# Proofs — the words of a machine

A setting is a list of *assignments*: values for channels, each of which is written on its own, with
their words in one text.

* `write_eq`, `write_admitted`: the word for a value, in general and for a value that the channel
  admits.
* `Setting.assignments`, `apply_eq`: a setting is the writing of its assignments.
* `Setting.channels`, `Verb.channels`: what is written on; `get_words_of_not_mem` says that the other
  channels are left alone.
* `Setting.IsModal`: what is given to the axes, the feed, the speed and the tool can be written.
* `Setting.IsModal.isTaken`: then every assignment of the setting can be written.
-/

namespace Postprocessor

/-! ### Writing one value -/

namespace Channel

/-- The word for a value, empty for null. -/
def wordOrNone (c : Channel) : Value → String
  | .null => ""
  | v => c.word v

/-- The value is null or admitted on the channel. -/
def Takes (c : Channel) (v : Value) : Prop := v = .null ∨ c.Admits v

theorem wordOrNone_of_admits {c : Channel} {v : Value} (h : c.Admits v) :
    c.wordOrNone v = c.word v := by
  cases v with
  | null => exact absurd h not_admits_null
  | _ => rfl

end Channel

namespace Machine

theorem set_get (m : Machine) (c : Channel) : m.set c (m.get c) = m := by
  refine ext_get fun d => ?_
  rw [get_set]
  split
  · next h => rw [h]
  · rfl

theorem write_null (c : Channel) (force : Bool) (m : Machine) :
    write c .null force m = (.ok "", m) := by
  show (Except.ok "", m.set c (m.get c)) = _
  rw [set_get]

/-- Writing on a channel leaves the others alone. -/
theorem get_write_of_ne {c d : Channel} (h : c ≠ d) (v : Value) (force : Bool) (m : Machine) :
    (write c v force m).2.get d = m.get d := by
  show (m.set c _).get d = m.get d
  rw [get_set, if_neg h]

/-- The writing of a value other than null: nothing if the channel holds a value that agrees with
it, unless it is forced. -/
theorem write_eq {c : Channel} {v : Value} (hv : v ≠ .null) (force : Bool) (m : Machine) :
    write c v force m =
      if !force && Register.agrees (m.get c) v then (.ok "", m)
      else ((c.style.write v).map (c.address ++ ·), m.set c v) := by
  have key : (m.register c).render v force =
      if !force && Register.agrees (m.get c) v then (.ok "", m.register c)
      else ((c.style.write v).map (c.address ++ ·), { m.register c with last := v }) := by
    cases v with
    | null => exact absurd rfl hv
    | _ => rfl
  have unfolded : write c v force m =
      (((m.register c).render v force).1, m.set c ((m.register c).render v force).2.last) := rfl
  rw [unfolded, key]
  split
  · show (Except.ok "", m.set c (m.get c)) = _
    rw [set_get]
  · rfl

theorem write_admitted {c : Channel} {v : Value} (h : c.Admits v) (force : Bool) (m : Machine) :
    write c v force m =
      if !force && Register.agrees (m.get c) v then (.ok "", m)
      else (.ok (c.word v), m.set c v) := by
  have hv : v ≠ .null := fun e => Channel.not_admits_null (e ▸ h)
  rw [write_eq hv, Channel.write_of_admits h]
  rfl

end Machine

/-! ### Settings -/

/-- A value for a channel. -/
structure Assignment where
  channel : Channel
  value : Value

namespace Assignment

/-- The word of an assignment, empty for null. -/
def word (a : Assignment) : String := a.channel.wordOrNone a.value

/-- The value is null or admitted on its channel. -/
def IsTaken (a : Assignment) : Prop := a.channel.Takes a.value

end Assignment

namespace Setting

/-- The assignments of a setting in the order of their words. -/
def assignments : Setting → Except Failure (List Assignment)
  | .position target => .ok (Axis.all.map fun axis => ⟨.axis axis, target axis⟩)
  | .mode m code => (m.check code).map fun _ => [⟨.mode m, code⟩]
  | .plane p => (planeCode p).map fun code => [⟨.plane, .int code⟩]
  | .feed rate => .ok [⟨.feed, rate⟩]
  | .speed rate => .ok [⟨.speed, rate⟩]
  | .direction d => (directionCode d).map fun code => [⟨.direction, .int code⟩]
  | .tool name => .ok [⟨.tool, name⟩]

/-- The code of a mode is accepted. -/
theorem assignments_mode {m : Mode} {i : Int} (h : i ∈ m.codes) :
    (mode m (.int i)).assignments = .ok [⟨.mode m, .int i⟩] := by
  have found : m.codes.any (fun c => (Value.int i).same (.int c)) = true :=
    List.any_eq_true.mpr ⟨i, h, by simp [Value.same_int, Value.sameAtom, Value.int?]⟩
  have accepted : m.check (.int i) = .ok () := by
    rw [Mode.check]
    · simp [Value.isFindable, Value.isComparable, found]
    · simp
  rw [assignments, accepted]
  rfl

/-- The words of a setting in one text. -/
def joined (s : Setting) (words : List String) : String :=
  match s with
  | .position _ => Machine.joinWords words
  | _ => "".intercalate words

/-- The axes, the feed, the speed and the tool are given null or a value that their channel admits;
codes are checked when they are set. -/
def IsModal : Setting → Prop
  | .position target => ∀ axis, (Channel.axis axis).Takes (target axis)
  | .feed rate => Channel.feed.Takes rate
  | .speed rate => Channel.speed.Takes rate
  | .tool name => Channel.tool.Takes name
  | .mode .. | .plane _ | .direction _ => True

theorem IsModal.isTaken {s : Setting} (h : s.IsModal) {as : List Assignment}
    (hs : s.assignments = .ok as) : ∀ a ∈ as, a.IsTaken := by
  cases s with
  | position target =>
      cases hs
      intro a ha
      obtain ⟨axis, -, rfl⟩ := List.mem_map.mp ha
      exact h axis
  | feed rate | speed rate | tool name =>
      cases hs
      exact List.forall_mem_singleton.mpr h
  | mode m code =>
      obtain ⟨_, hc, rfl⟩ := map_eq_ok hs
      exact List.forall_mem_singleton.mpr (.inr (Mode.admits_of_check hc))
  | plane p =>
      obtain ⟨i, hi, rfl⟩ := map_eq_ok hs
      obtain ⟨q, -, rfl⟩ := planeCode_eq_ok hi
      exact List.forall_mem_singleton.mpr (.inr (Plane.admits_code q))
  | direction d =>
      obtain ⟨i, hi, rfl⟩ := map_eq_ok hs
      obtain ⟨q, -, hq⟩ := directionCode_eq_ok hi
      exact List.forall_mem_singleton.mpr (.inr (Direction.admits_code hq))

/-- The channels of a setting, in the order of their words. -/
@[simp] def channels : Setting → List Channel
  | .position _ => Axis.all.map .axis
  | .mode m _ => [.mode m]
  | .plane _ => [.plane]
  | .feed _ => [.feed]
  | .speed _ => [.speed]
  | .direction _ => [.direction]
  | .tool _ => [.tool]

/-- A setting assigns its channels. -/
theorem map_channel_assignments {s : Setting} {as : List Assignment}
    (h : s.assignments = .ok as) : as.map Assignment.channel = s.channels := by
  cases s with
  | position target =>
      cases h
      exact List.map_map
  | feed rate | speed rate | tool name =>
      cases h
      rfl
  | mode | plane | direction =>
      obtain ⟨code, -, rfl⟩ := map_eq_ok h
      rfl

theorem nodup_channels (s : Setting) : s.channels.Nodup := by
  cases s with
  | position target => exact (by decide : (Axis.all.map Channel.axis).Nodup)
  | _ => exact List.pairwise_singleton _ _

theorem channel_mem {s : Setting} {as : List Assignment} (h : s.assignments = .ok as) :
    ∀ a ∈ as, a.channel ∈ s.channels := fun _ ha =>
  map_channel_assignments h ▸ List.mem_map_of_mem ha

end Setting

/-- The channels of a verb, in the order of their words. -/
def Verb.channels (v : Verb) : List Channel := v.settings.flatMap Setting.channels

@[simp] theorem Verb.channels_rapid (target : Axis → Value) :
    (rapid target).channels = .mode .motion :: Axis.all.map .axis := rfl

@[simp] theorem Verb.channels_line (target : Axis → Value) (feed : Value) :
    (line target feed).channels = .mode .motion :: Axis.all.map .axis ++ [.feed] := rfl

@[simp] theorem Verb.channels_set (s : Setting) : (set s).channels = s.channels :=
  List.flatMap_singleton ..

theorem Verb.mem_channels {v : Verb} {c : Channel} :
    c ∈ v.channels ↔ ∃ s ∈ v.settings, c ∈ s.channels := List.mem_flatMap

namespace Machine

/-- Writes assignments in order. -/
def writeAll (force : Bool) (as : List Assignment) : Step Machine (List String) :=
  as.mapM fun a => write a.channel a.value force

theorem writeAll_nil (force : Bool) (m : Machine) : writeAll force [] m = (.ok [], m) := rfl

theorem writeAll_cons_of_ok {force : Bool} {a : Assignment} {as : List Assignment}
    {m m' m'' : Machine} {w : String} {ws : List String}
    (h : write a.channel a.value force m = (.ok w, m'))
    (hs : writeAll force as m' = (.ok ws, m'')) :
    writeAll force (a :: as) m = (.ok (w :: ws), m'') := by
  rw [writeAll, List.mapM_cons, Step.bind_of_ok h]
  exact (Step.bind_of_ok hs _).trans rfl

theorem writeAll_cons_of_error {force : Bool} {a : Assignment} {m m' : Machine} {e : Failure}
    (h : write a.channel a.value force m = (.error e, m')) (as : List Assignment) :
    writeAll force (a :: as) m = (.error e, m') := by
  rw [writeAll, List.mapM_cons, Step.bind_of_error h]

theorem writeAll_append {force : Bool} {as bs : List Assignment} {m m' m'' : Machine}
    {us vs : List String} (h : writeAll force as m = (.ok us, m'))
    (h' : writeAll force bs m' = (.ok vs, m'')) :
    writeAll force (as ++ bs) m = (.ok (us ++ vs), m'') := by
  rw [writeAll, List.mapM_append]
  exact (Step.bind_of_ok h _).trans ((Step.bind_of_ok h' _).trans rfl)

/-- A setting writes its assignments, unless they are refused. -/
theorem apply_eq (force : Bool) (s : Setting) :
    apply force s = (do
      let as ← Step.lift s.assignments
      let words ← writeAll force as
      return s.joined words) := by
  -- a single word is joined to itself
  have one : ∀ a : Assignment,
      write a.channel a.value force = (do
        let words ← writeAll force [a]
        return "".intercalate words) := by
    intro a
    funext m
    rcases h : write a.channel a.value force m with ⟨e | w, m'⟩
    · rw [Step.bind_of_error (writeAll_cons_of_error h [])]
    · rw [Step.bind_of_ok (writeAll_cons_of_ok h (writeAll_nil force m'))]
      simp
  have checked : ∀ {α : Type} (r : Except Failure α) (f : α → Assignment),
      (do let a ← Step.lift r; write (f a).channel (f a).value force) =
      (do let as ← Step.lift (r.map fun a => [f a])
          let words ← writeAll force as
          return "".intercalate words) := by
    intro α r f
    funext m
    cases r with
    | error e => rfl
    | ok a => exact congrFun (one (f a)) m
  cases s with
  | position target =>
      funext m
      simp only [apply, Setting.assignments, Step.run_bind, Step.run_lift, writeAll, List.mapM_map]
      rfl
  | mode mode code => exact checked (mode.check code) fun _ => ⟨.mode mode, code⟩
  | plane plane => exact checked (planeCode plane) fun code => ⟨.plane, .int code⟩
  | feed rate => exact one ⟨.feed, rate⟩
  | speed rate => exact one ⟨.speed, rate⟩
  | direction d => exact checked (directionCode d) fun code => ⟨.direction, .int code⟩
  | tool name => exact one ⟨.tool, name⟩

/-! ### Other channels -/

variable {c : Channel} {force : Bool}

theorem get_writeAll_of_ne {as : List Assignment} (hc : ∀ a ∈ as, a.channel ≠ c) (m : Machine) :
    (writeAll force as m).2.get c = m.get c :=
  Step.kept_mapM (get · c) (fun a ha => get_write_of_ne (hc a ha) a.value force) m

theorem get_apply_of_not_mem {s : Setting} (hc : c ∉ s.channels) (m : Machine) :
    (apply force s m).2.get c = m.get c := by
  have other {as : List Assignment} (has : s.assignments = .ok as) : ∀ a ∈ as, a.channel ≠ c :=
    fun a ha e => hc (e ▸ Setting.channel_mem has a ha)
  rw [apply_eq]
  exact Step.kept_bind (get · c) (fun _ => rfl)
    (fun as _ has => Step.kept_bind (get · c) (get_writeAll_of_ne (other has)) fun _ _ _ _ => rfl) m

/-- **A verb** leaves the channels alone that it does not write on. -/
theorem get_words_of_not_mem {v : Verb} (hc : c ∉ v.channels) (m : Machine) :
    (v.words force m).2.get c = m.get c :=
  Step.kept_bind (get · c) (Step.kept_mapM (get · c) fun s hs => get_apply_of_not_mem
    fun mem => hc (Verb.mem_channels.mpr ⟨s, hs, mem⟩)) (fun _ _ _ _ => rfl) m

end Machine

end Postprocessor
