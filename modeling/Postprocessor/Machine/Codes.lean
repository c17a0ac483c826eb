import Postprocessor.Value

/-!
# Codes

* `Axis`: the six axes.
* `Mode`: the modes that are set by a code, each with its codes.
* `Mode.check`: whether a value is a code of a mode.
* `directionCode`, `planeCode`: the codes of the spindle directions and of the working planes.
-/

namespace Postprocessor

/-- An axis of the machine. -/
inductive Axis where
  | x | y | z | a | b | c
  deriving DecidableEq, Repr, Inhabited

namespace Axis

/-- The axes in the order in which their words are written. -/
def all : List Axis := [.x, .y, .z, .a, .b, .c]

/-- The name of an axis. -/
def name : Axis → String
  | .x => "x"
  | .y => "y"
  | .z => "z"
  | .a => "a"
  | .b => "b"
  | .c => "c"

/-- The address letter of an axis. -/
def address : Axis → String
  | .x => "X"
  | .y => "Y"
  | .z => "Z"
  | .a => "A"
  | .b => "B"
  | .c => "C"

end Axis

/-- A mode that is set by its code. -/
inductive Mode where
  /-- Rapid or in feed. -/
  | motion
  /-- Inch or metric. -/
  | units
  /-- Absolute or incremental. -/
  | positioning
  /-- Per minute or per revolution. -/
  | feed
  /-- The work offset. -/
  | home
  deriving DecidableEq, Repr, Inhabited

namespace Mode

/-- The codes of a mode in ascending order. -/
def codes : Mode → List Int
  | .motion => [0, 1]
  | .units => [700, 710]
  | .positioning => [90, 91]
  | .feed => [94, 95]
  | .home => [54, 55, 56, 57, 58, 59]

/-- The name of a mode in messages. -/
def label : Mode → String
  | .motion => "motion mode"
  | .units => "unit system"
  | .positioning => "positioning mode"
  | .feed => "feed rate mode"
  | .home => "home number"

/-- The report of a value that is no code of the mode. -/
def refuse (mode : Mode) (v : Value) : Except Failure Unit :=
  v.shown.bind fun shown => .error (.badCode mode.label mode.codes shown)

/-- Accepts the codes of the mode.  A truth value is no code, though it equals a number. -/
def check (mode : Mode) (v : Value) : Except Failure Unit :=
  match v with
  | .bool _ => mode.refuse v
  | v =>
    if !v.isFindable then .error .notComparable
    else if mode.codes.any fun c => v.same (.int c) then .ok ()
    else mode.refuse v

end Mode

/-- The code of a spindle direction: clockwise or counter-clockwise. -/
def Direction.code? : Direction → Option Int
  | .cw | .cwT | .cwF => some 3
  | .ccw | .ccwT | .ccwF => some 4
  | .forward | .backward => none

/-- The code of a working plane. -/
def Plane.code : Plane → Int
  | .xy => 17
  | .xz => 18
  | .yz => 19

/-- The symbol that a value is or spells. -/
def Value.symbol? (v : Value) : Option Symbol := v.text?.bind Symbol.ofWord?

/-- The code of the spindle direction that a value names. -/
def directionCode (v : Value) : Except Failure Int :=
  match v.symbol? with
  | some (.direction d) =>
    match d.code? with
    | some c => .ok c
    | none => v.shown.bind fun shown => .error (.notDirection shown)
  | _ => v.shown.bind fun shown => .error (.notDirection shown)

/-- The code of the working plane that a value names. -/
def planeCode (v : Value) : Except Failure Int :=
  match v.symbol? with
  | some (.plane p) => .ok p.code
  | _ => v.shown.bind fun shown => .error (.notPlane shown)

end Postprocessor
