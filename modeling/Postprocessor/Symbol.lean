/-!
# The vocabulary of bare words

Some words of a trace are symbols: directions, switch states and working planes.

* `Symbol`: the symbols, in three families.
* `Symbol.word`: the spelling in a trace.
* `Symbol.ofWord?`: the symbol with a given spelling; `ofWord?_eq_some_iff` says that it inverts
  `word`, so no two symbols are spelled alike.
-/

namespace Postprocessor

/-- Directions of rotation and of feed. -/
inductive Direction where
  | cw | cwT | cwF | ccw | ccwT | ccwF | forward | backward
  deriving DecidableEq, Repr, Inhabited

/-- States of a switch. -/
inductive Switch where
  | on | off
  deriving DecidableEq, Repr, Inhabited

/-- Working planes. -/
inductive Plane where
  | xy | xz | yz
  deriving DecidableEq, Repr, Inhabited

/-- A word of the vocabulary. -/
inductive Symbol where
  | direction (d : Direction)
  | switch (s : Switch)
  | plane (p : Plane)
  deriving DecidableEq, Repr, Inhabited

namespace Symbol

/-- All symbols, family by family. -/
def all : List Symbol :=
  ([.cw, .cwT, .cwF, .ccw, .ccwT, .ccwF, .forward, .backward] : List Direction).map .direction
    ++ ([.on, .off] : List Switch).map .switch
    ++ ([.xy, .xz, .yz] : List Plane).map .plane

theorem mem_all (s : Symbol) : s ∈ all := by
  cases s with
  | direction d => cases d <;> decide
  | switch s => cases s <;> decide
  | plane p => cases p <;> decide

/-- The spelling in a trace. -/
def word : Symbol → String
  | .direction .cw => "cw"
  | .direction .cwT => "cwT"
  | .direction .cwF => "cwF"
  | .direction .ccw => "ccw"
  | .direction .ccwT => "ccwT"
  | .direction .ccwF => "ccwF"
  | .direction .forward => "forward"
  | .direction .backward => "backward"
  | .switch .on => "on"
  | .switch .off => "off"
  | .plane .xy => "xy"
  | .plane .xz => "xz"
  | .plane .yz => "yz"

/-- The family of a symbol, as messages name it. -/
def family : Symbol → String
  | .direction _ => "Direction"
  | .switch _ => "State"
  | .plane _ => "Plane"

/-- The name of a symbol in its family, as messages show it. -/
def label : Symbol → String
  | .direction .cw => "CW"
  | .direction .cwT => "CWT"
  | .direction .cwF => "CWF"
  | .direction .ccw => "CCW"
  | .direction .ccwT => "CCWT"
  | .direction .ccwF => "CCWF"
  | .direction .forward => "FORWARD"
  | .direction .backward => "BACKWARD"
  | .switch .on => "ON"
  | .switch .off => "OFF"
  | .plane .xy => "XY"
  | .plane .xz => "XZ"
  | .plane .yz => "YZ"

/-- A symbol as messages show it. -/
def shown (s : Symbol) : String :=
  "<" ++ s.family ++ "." ++ s.label ++ ": '" ++ s.word ++ "'>"

/-- The symbol spelled `w`. -/
def ofWord? (w : String) : Option Symbol := all.find? (·.word == w)

theorem word_injective {s t : Symbol} (h : s.word = t.word) : s = t := by
  have key : ∀ s ∈ all, ∀ t ∈ all, s.word = t.word → s = t := by decide
  exact key s (mem_all s) t (mem_all t) h

theorem ofWord?_eq_some_iff {w : String} {s : Symbol} : ofWord? w = some s ↔ s.word = w := by
  constructor
  · intro h
    simpa using List.find?_some h
  · rintro rfl
    cases h : ofWord? s.word with
    | none =>
      have := List.find?_eq_none.mp h s (mem_all s)
      simp at this
    | some t =>
      have hw : t.word = s.word := by simpa using List.find?_some h
      rw [word_injective hw]

end Symbol

end Postprocessor
