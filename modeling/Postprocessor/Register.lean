import Postprocessor.Value

/-!
# Registers

A control keeps the last word it has read of every address.  A register remembers the value it last
wrote for one address, and writes a word only when the value changes or when it is forced to.

* `WordStyle`: the ways to write the value of a word.
* `Register.render`: the word for a value, empty if none is needed.
-/

namespace Postprocessor

/-- The way the value of a word is written. -/
inductive WordStyle where
  /-- Numbers in digits only. -/
  | plain
  /-- Any value as text. -/
  | text
  /-- A name after an equals sign, between quotes. -/
  | name
  deriving DecidableEq, Repr, Inhabited

/-- The text of a word after its address. -/
def WordStyle.write : WordStyle → Value → Except Failure String
  | .plain, v => v.plain
  | .text, v => v.written
  | .name, v => v.written.map fun s => "=\"" ++ s ++ "\""

/-- The value last written for an address, null if none was. -/
structure Register where
  address : String
  style : WordStyle
  last : Value
  deriving Repr, Inhabited

namespace Register

/-- Whether a value needs no new word after another.  A truth value never stands for a number. -/
def agrees (a b : Value) : Bool :=
  match a, b with
  | .bool x, .bool y => x == y
  | .bool _, _ => false
  | _, .bool _ => false
  | a, b => a.same b

/-- The word for a value, and the register that remembers the value.  The word is empty for null
and, unless it is forced, for a value that agrees with the last one.  A value that cannot be written
is remembered all the same. -/
def render (r : Register) (v : Value) (force : Bool) : Except Failure String × Register :=
  match v with
  | .null => (.ok "", r)
  | v =>
    if !force && agrees r.last v then (.ok "", r)
    else ((r.style.write v).map (r.address ++ ·), { r with last := v })

/-- The register with nothing remembered. -/
def reset (r : Register) : Register := { r with last := .null }

/-- The register as messages show it. -/
def shown (r : Register) : Except Failure String :=
  r.last.shown.map fun v => "Emitter(prefix=" ++ r.address.quotedForm ++ ", value=" ++ v ++ ")"

end Register

end Postprocessor
