import Postprocessor.Calendar
import Postprocessor.Text.CodePoint

/-!
# Values of configuration files only

A Yaml text can hold values that no trace has: dates, timestamps, bytes, and texts with code points
that are no characters.

* `Foreign`: these values.
* `Foreign.same`, `Foreign.truthy`, `Foreign.shown`, `Foreign.written`: what is asked of any value.
-/

namespace Postprocessor

/-- A value that only a Yaml text can hold. -/
inductive Foreign where
  | date (d : Date)
  | timestamp (t : Timestamp)
  | bytes (bs : List UInt8)
  /-- A text with a half of a pair in it. -/
  | broken (cs : List CodePoint)
  deriving DecidableEq, Repr, Inhabited

namespace Foreign

/-- Equality by value. -/
def same : Foreign → Foreign → Bool
  | .timestamp s, .timestamp t => s.same t
  | x, y => x == y

/-- Whether the value counts as true. -/
def truthy : Foreign → Bool
  | .date _ | .timestamp _ => true
  | .bytes bs => !bs.isEmpty
  | .broken cs => !cs.isEmpty

/-- The type of a value, as messages name it. -/
def typeName : Foreign → String
  | .date _ => "date"
  | .timestamp _ => "datetime"
  | .bytes _ => "bytes"
  | .broken _ => "str"

/-- A value in a message. -/
def shown : Foreign → String
  | .date d => d.shown
  | .timestamp t => t.shown
  | .bytes bs => Text.quotedBytes bs
  | .broken cs => CodePoint.quotedForm cs

/-- A value as code points. -/
def points : Foreign → List CodePoint
  | .date d => CodePoint.ofText d.written
  | .timestamp t => CodePoint.ofText t.written
  | .bytes bs => CodePoint.ofText (Text.quotedBytes bs)
  | .broken cs => cs

/-- A value as text.  A half of a pair has no place in one, so a replacement stands for it. -/
def written (x : Foreign) : String :=
  String.ofList (x.points.map fun p => p.char?.getD '\uFFFD')

end Foreign

end Postprocessor
