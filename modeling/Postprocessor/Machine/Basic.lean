import Postprocessor.Machine.Codes
import Postprocessor.Register
import Postprocessor.Step
import Postprocessor.Text.Blank

/-!
# The modal state of a machine

A machine has one register for each of its channels: the six axes, the modes, the plane, the feed,
the spindle and the tool.  A setting gives one or several channels new values and yields the words
that changed.

* `Channel`: the channels, each with its address.
* `Machine`: the value last written on every channel; `get_set` says what a write changes.
* `Setting`: what can be set.
* `Machine.apply`: the words of a setting.
-/

namespace Postprocessor

/-- A channel of the machine. -/
inductive Channel where
  | axis (of : Axis)
  | mode (of : Mode)
  | plane
  | feed
  | speed
  | direction
  | tool
  deriving DecidableEq, Repr, Inhabited

namespace Channel

/-- The address of the words of a channel. -/
def address : Channel → String
  | .axis letter => letter.address
  | .mode _ => "G"
  | .plane => "G"
  | .feed => "F"
  | .speed => "S"
  | .direction => "M"
  | .tool => "T"

/-- The way the values of a channel are written. -/
def style : Channel → WordStyle
  | .tool => .name
  | _ => .plain

/-- The number of channels. -/
abbrev count : Nat := 16

/-- The place of a channel in the state of a machine. -/
def index : Channel → Fin count
  | .axis .x => 0
  | .axis .y => 1
  | .axis .z => 2
  | .axis .a => 3
  | .axis .b => 4
  | .axis .c => 5
  | .mode .motion => 6
  | .mode .units => 7
  | .mode .positioning => 8
  | .mode .feed => 9
  | .mode .home => 10
  | .plane => 11
  | .feed => 12
  | .speed => 13
  | .direction => 14
  | .tool => 15

/-- The channel at a place. -/
def ofIndex (i : Fin count) : Channel :=
  (#v[.axis .x, .axis .y, .axis .z, .axis .a, .axis .b, .axis .c, .mode .motion, .mode .units,
    .mode .positioning, .mode .feed, .mode .home, .plane, .feed, .speed, .direction,
    .tool] : Vector Channel count).get i

theorem ofIndex_index (c : Channel) : ofIndex c.index = c := by
  cases c with
  | axis axis => cases axis <;> rfl
  | mode mode => cases mode <;> rfl
  | _ => rfl

theorem index_ofIndex (i : Fin count) : (ofIndex i).index = i := by
  revert i
  decide

theorem index_injective {c d : Channel} (h : c.index = d.index) : c = d := by
  rw [← ofIndex_index c, ← ofIndex_index d, h]

end Channel

/-- The modal state: the value last written on every channel, null where none was. -/
structure Machine where
  last : Vector Value Channel.count
  deriving Repr

namespace Machine

/-- A machine on which nothing was written. -/
def fresh : Machine := ⟨Vector.replicate _ .null⟩

instance : Inhabited Machine := ⟨fresh⟩

/-- The value last written on a channel. -/
def get (m : Machine) (c : Channel) : Value := m.last[c.index]

/-- The machine after `v` was written on a channel. -/
def set (m : Machine) (c : Channel) (v : Value) : Machine := ⟨m.last.set c.index v⟩

theorem get_set (m : Machine) (c d : Channel) (v : Value) :
    (m.set c v).get d = if c = d then v else m.get d := by
  by_cases h : c = d
  · subst h
    simp [get, set]
  · have hi : c.index.val ≠ d.index.val := fun e => h (Channel.index_injective (Fin.ext e))
    simp [get, set, h, hi]

/-- A machine is known by the values on its channels. -/
theorem ext_get {m n : Machine} (h : ∀ c, m.get c = n.get c) : m = n := by
  obtain ⟨v⟩ := m
  obtain ⟨w⟩ := n
  congr
  ext i hi
  have key := h (Channel.ofIndex ⟨i, hi⟩)
  simp only [get, Channel.index_ofIndex] at key
  exact key

theorem get_fresh (c : Channel) : fresh.get c = .null := by
  simp [get, fresh]

/-- The register of a channel. -/
def register (m : Machine) (c : Channel) : Register := ⟨c.address, c.style, m.get c⟩

/-! ### Settings -/

/-- The word for a value on a channel. -/
def write (c : Channel) (v : Value) (force : Bool) : Step Machine String :=
  fun m =>
    let (r, after) := (m.register c).render v force
    (r, m.set c after.last)

end Machine

/-- What can be set on a machine. -/
inductive Setting where
  /-- The target of a move; null for an axis that does not move. -/
  | position (target : Axis → Value)
  | mode (mode : Mode) (code : Value)
  | plane (plane : Value)
  | feed (rate : Value)
  | speed (rate : Value)
  | direction (direction : Value)
  | tool (name : Value)

namespace Machine

/-- The words of a move in one text: those that changed, with single spaces between them. -/
def joinWords (words : List String) : String :=
  String.ofList (Text.trim (Text.squeeze (" ".intercalate words).toList))

/-- The word or words of a setting, empty if nothing changed. -/
def apply (force : Bool) : Setting → Step Machine String
  | .position target => do
    let words ← Axis.all.mapM fun axis => write (.axis axis) (target axis) force
    return joinWords words
  | .mode mode code => do
    Step.lift (mode.check code)
    write (.mode mode) code force
  | .plane plane => do
    let code ← Step.lift (planeCode plane)
    write .plane (.int code) force
  | .feed rate => write .feed rate force
  | .speed rate => write .speed rate force
  | .direction direction => do
    let code ← Step.lift (directionCode direction)
    write .direction (.int code) force
  | .tool name => write .tool name force

/-- Runs steps on a machine. -/
def run {α : Type} (m : Machine) (step : Step Machine α) : Except Failure α × Machine := step m

end Machine

end Postprocessor
