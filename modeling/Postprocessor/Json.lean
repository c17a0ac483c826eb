import Postprocessor.Fields
import Postprocessor.Text.Utf16

/-!
# Json texts

Event dumps and log lines are Json texts.  Numbers that are not finite go by the names `NaN`,
`Infinity` and `-Infinity`.

* `Layout`: on one line and in ASCII only, or indented and with every character as it is.
* `Value.json`: a value in a layout.
-/

namespace Postprocessor
open Text

namespace Json

/-- The ways to lay out a text. -/
inductive Layout where
  /-- One line, ASCII only. -/
  | line
  /-- Every item on a line of its own, two more spaces in than what holds it. -/
  | indented
  deriving DecidableEq, Repr

/-- A 16-bit unit. -/
def escapeUnit (n : Nat) : List Char := '\\' :: 'u' :: hexDigits 4 n

/-- A character by its one or two 16-bit units. -/
def escapeCode (c : Char) : List Char := (units16 c).flatMap escapeUnit

/-- A character between quotes. -/
def escapeChar (layout : Layout) (c : Char) : List Char :=
  if c == '"' then ['\\', '"']
  else if c == '\\' then ['\\', '\\']
  else if c == '\n' then ['\\', 'n']
  else if c == '\r' then ['\\', 'r']
  else if c == '\t' then ['\\', 't']
  else if c == '\x08' then ['\\', 'b']
  else if c == '\x0c' then ['\\', 'f']
  else if c.toNat < 32 then escapeCode c
  else if layout = .line ∧ 126 < c.toNat then escapeCode c
  else [c]

/-- A text between quotes. -/
def quote (layout : Layout) (s : String) : String :=
  String.ofList ('"' :: s.toList.flatMap (escapeChar layout) ++ ['"'])

/-- A number. -/
def number : Binary64 → String
  | .infinite s => if s then "-Infinity" else "Infinity"
  | .undefined _ => "NaN"
  | x => String.ofList x.text

/-- The break before an item at a depth, and the text between the items. -/
def breakAt (layout : Layout) (depth : Nat) : String :=
  match layout with
  | .line => ""
  | .indented => "\n" ++ String.ofList (List.replicate (2 * depth) ' ')

/-- Items between brackets. -/
def bracket (layout : Layout) (depth : Nat) (opening closing : String) (items : List String) :
    String :=
  if items.isEmpty then opening ++ closing
  else
    let between := match layout with
      | .line => ", "
      | .indented => "," ++ breakAt layout (depth + 1)
    opening ++ breakAt layout (depth + 1) ++ between.intercalate items ++ breakAt layout depth
      ++ closing

/-- A value without parts. -/
def atom (layout : Layout) : Value → Except Failure String
  | .null => .ok "null"
  | .bool b => .ok (if b then "true" else "false")
  | .int i => Value.intWritten i
  | .float x => .ok (number x)
  | .text s => .ok (quote layout s)
  | .symbol s => .ok (quote layout s.word)
  | .list _ | .mapping _ => .ok ""
  | .foreign _ | .pair .. | .set _ | .again _ => .error .notComparable

/-- The key of an entry, which is a text. -/
def key (layout : Layout) : Value → Except Failure String
  | .text s => .ok (quote layout s)
  | .symbol s => .ok (quote layout s.word)
  | .list _ | .mapping _ => .error .notComparable
  | v => (atom layout v).map (quote layout)

end Json

namespace Value
open Json

mutual

/-- A value at a depth. -/
def jsonAt (layout : Layout) (depth : Nat) : Value → Except Failure String
  | .list items => (jsonItems layout (depth + 1) items).map (bracket layout depth "[" "]")
  | .mapping entries =>
    (jsonEntries layout (depth + 1) entries).map (bracket layout depth "\x7b" "\x7d")
  | v => atom layout v

/-- The items of a list. -/
def jsonItems (layout : Layout) (depth : Nat) : List Value → Except Failure (List String)
  | [] => .ok []
  | x :: xs => do
    let w ← jsonAt layout depth x
    let ws ← jsonItems layout depth xs
    .ok (w :: ws)

/-- The entries of a mapping. -/
def jsonEntries (layout : Layout) (depth : Nat) :
    List (Value × Value) → Except Failure (List String)
  | [] => .ok []
  | (k, v) :: es => do
    let w ← Json.key layout k
    let w' ← jsonAt layout depth v
    let ws ← jsonEntries layout depth es
    .ok ((w ++ ": " ++ w') :: ws)

end

/-- A value as a text. -/
def json (layout : Layout) (v : Value) : Except Failure String := v.jsonAt layout 0

end Value

end Postprocessor
