import Postprocessor.Text.Base64
import Postprocessor.Text.Utf16

/-!
# Texts in seven bits

Most characters of ASCII stand for themselves.  A run of others is written by its units of 16 bits
in base 64, after a plus and before a hyphen.  The hyphen is left out where the next character
ends the run anyway.

* `Utf7.isDirect`: the characters that stand for themselves.
* `Utf7.encode`: a text in this form.
-/

namespace Postprocessor.Text.Utf7

/-- A character that stands for itself. -/
def isDirect (c : Char) : Bool :=
  ['\t', '\n', '\r'].contains c
    || (32 ≤ c.toNat && c.toNat < 127 && !(['+', '\\', '~'].contains c))

/-- Units of 16 bits in base 64, filled up with zeros. -/
def digits (units : List Nat) : List Char :=
  let count := (16 * units.length + 5) / 6
  let n := units.foldl (fun n u => 0x10000 * n + u) 0 * 2 ^ (6 * count - 16 * units.length)
  (List.range count).map fun i => Base64.char (n / 64 ^ (count - 1 - i) % 64)

/-- Whether a run in base 64 before `c` has to be ended by a hyphen. -/
def needsEnd (c : Char) : Bool := c == '-' || (Base64.digit? c).isSome

/-- The rest of a text after a run of units, if there is one. -/
def encodeFrom (run : Option (List Nat)) : List Char → List Char
  | [] =>
    match run with
    | some units => digits units ++ ['-']
    | none => []
  | c :: rest =>
    match run with
    | some units =>
      if isDirect c then
        digits units ++ (if needsEnd c then ['-'] else []) ++ c :: encodeFrom none rest
      else encodeFrom (some (units ++ units16 c)) rest
    | none =>
      if isDirect c then c :: encodeFrom none rest
      else if c == '+' then '+' :: '-' :: encodeFrom none rest
      else '+' :: encodeFrom (some (units16 c)) rest

/-- A text in seven bits. -/
def encode (cs : List Char) : List Char := encodeFrom none cs

end Postprocessor.Text.Utf7
