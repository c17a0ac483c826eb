import Postprocessor.Text.Quoted

/-!
# Failures

What can go wrong while a program is written, by cause.

* `Failure`: the causes.
* `Failure.kind`, `Failure.message`: the two texts by which a failure is reported.
-/

namespace Postprocessor

/-- The most digits of a whole number that is written or read as text. -/
abbrev digitLimit : Nat := 4300

/-- A cause of failure. -/
inductive Failure where
  /-- A whole number with more than `digitLimit` digits was to be written. -/
  | tooManyDigits
  /-- A value outside the codes of a mode; `shown` is the value as messages show it. -/
  | badCode (mode : String) (allowed : List Int) (shown : String)
  | notDirection (shown : String)
  | notPlane (shown : String)
  /-- A value that cannot be looked up in a set or a table. -/
  | notComparable
  /-- A value other than a text where a text is needed. -/
  | notText
  /-- A subprogram was to be opened while one is open. -/
  | nestedSubprogram (name current : String)
  | fileExists (name : String)
  /-- A subprogram was to be closed while none is open. -/
  | noSubprogram (main : String)
  /-- The count of a lookup is not positive. -/
  | badCount (count : String)
  /-- A position outside the events. -/
  | outOfRange
  /-- A parameter that is not there. -/
  | missingKey (key : String)
  /-- Dispatches nested too deep. -/
  | tooDeep
  /-- A failure that a listener reports, in its own words. -/
  | reported (kind message : String)
  deriving DecidableEq, Repr, Inhabited

namespace Failure

/-- The kind under which a failure is reported. -/
def kind : Failure → String
  | .tooManyDigits | .badCode .. | .notDirection _ | .notPlane _ | .badCount _ => "ValueError"
  | .notComparable => "TypeError"
  | .notText => "AttributeError"
  | .nestedSubprogram .. | .fileExists _ | .noSubprogram _ => "FileContextError"
  | .outOfRange => "IndexError"
  | .missingKey _ => "KeyError"
  | .tooDeep => "RecursionError"
  | .reported kind _ => kind

/-- The codes of a mode between brackets. -/
def codeList (codes : List Int) : String :=
  "[" ++ ", ".intercalate (codes.map fun c => toString c) ++ "]"

/-- The text that is reported. -/
def message : Failure → String
  | .tooManyDigits =>
    "Exceeds the limit (4300 digits) for integer string conversion; " ++
      "use sys.set_int_max_str_digits() to increase the limit"
  | .badCode mode allowed shown =>
    mode ++ " must be one of " ++ codeList allowed ++ ", got " ++ shown
  | .notDirection shown => "Not a spindle direction: " ++ shown
  | .notPlane shown => "Not a machine plane: " ++ shown
  | .notComparable => "unhashable type"
  | .notText => "not a text"
  | .nestedSubprogram name current =>
    "Cannot open subprogram '" ++ name ++ "' inside subprogram '" ++ current ++ "'"
  | .fileExists name => "File '" ++ name ++ "' already exists"
  | .noSubprogram main => "Cannot end subprogram: '" ++ main ++ "' is the main file"
  | .badCount count => "n is 1-indexed and must be >= 1, got " ++ count
  | .outOfRange => "index out of range"
  | .missingKey key => key.quotedForm
  | .tooDeep => "maximum recursion depth exceeded"
  | .reported _ message => message

end Failure

end Postprocessor
