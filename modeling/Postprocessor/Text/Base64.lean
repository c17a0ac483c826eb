/-!
# Bytes in base 64

Four characters stand for three bytes.  Characters outside of the alphabet are passed over, and an
equals sign that completes a group of four ends the text.

* `Base64.digit?`, `Base64.char`: the value of a character, and back.
* `Base64.decode?`: the bytes that a text stands for.
-/

namespace Postprocessor.Text.Base64

/-- The value of a character of the alphabet. -/
def digit? (c : Char) : Option Nat :=
  if c.isUpper then some (c.toNat - 65)
  else if c.isLower then some (c.toNat - 71)
  else if c.isDigit then some (c.toNat + 4)
  else if c == '+' then some 62
  else if c == '/' then some 63
  else none

/-- The character of a value below 64. -/
def char (d : Nat) : Char :=
  if d < 26 then Char.ofNat (65 + d)
  else if d < 52 then Char.ofNat (71 + d)
  else if d < 62 then Char.ofNat (d - 4)
  else if d = 62 then '+'
  else '/'

theorem digit?_char {d : Nat} (h : d < 64) : digit? (char d) = some d := by
  revert d
  decide

/-- A group of four characters that is being read. -/
structure Group where
  /-- The number of characters that are read. -/
  size : Nat
  /-- The bits of the last character that are in no byte yet. -/
  left : Nat
  /-- The number of equals signs since the last character. -/
  pads : Nat

/-- The group after a character with the value `d`, and the byte that is complete. -/
def Group.push (g : Group) (d : Nat) : Group × List UInt8 :=
  match g.size with
  | 0 => (⟨1, d, 0⟩, [])
  | 1 => (⟨2, d % 16, 0⟩, [(4 * g.left + d / 16).toUInt8])
  | 2 => (⟨3, d % 4, 0⟩, [(16 * g.left + d / 4).toUInt8])
  | _ => (⟨0, 0, 0⟩, [(64 * g.left + d).toUInt8])

/-- The bytes that the rest of a text stands for. -/
def decodeFrom (g : Group) : List Char → Option (List UInt8)
  | [] => if g.size = 0 then some [] else none
  | c :: rest =>
    if c == '=' then
      if g.size < 2 then decodeFrom g rest
      else if 4 ≤ g.size + g.pads + 1 then some []
      else decodeFrom { g with pads := g.pads + 1 } rest
    else
      match digit? c with
      | none => decodeFrom g rest
      | some d =>
        let (g, byte) := g.push d
        (decodeFrom g rest).map (byte ++ ·)

/-- The bytes that a text of ASCII stands for; `none` if the last group is not complete. -/
def decode? (cs : List Char) : Option (List UInt8) :=
  if cs.all (·.toNat < 128) then decodeFrom ⟨0, 0, 0⟩ cs else none

end Postprocessor.Text.Base64
