/-!
# Levels of log records

* `Level`: the five named levels, in ascending order of weight.
* `Level.weight`: the number of a level.
* `Level.ofName?`: the level with a given name.
-/

namespace Postprocessor

/-- A named level. -/
inductive Level where
  | debug | info | warning | error | critical
  deriving DecidableEq, Repr, Inhabited

namespace Level

/-- All levels, in ascending order. -/
def all : List Level := [.debug, .info, .warning, .error, .critical]

/-- The name of a level. -/
def name : Level → String
  | .debug => "DEBUG"
  | .info => "INFO"
  | .warning => "WARNING"
  | .error => "ERROR"
  | .critical => "CRITICAL"

/-- The number of a level. -/
def weight : Level → Nat
  | .debug => 10
  | .info => 20
  | .warning => 30
  | .error => 40
  | .critical => 50

/-- The level named `name`. -/
def ofName? (name : String) : Option Level := all.find? (·.name == name)

theorem ofName?_name (l : Level) : ofName? l.name = some l := by
  cases l <;> decide

theorem name_of_ofName? {s : String} {l : Level} (h : ofName? s = some l) : l.name = s := by
  simpa using List.find?_some h

/-- The level with a given number. -/
def ofWeight? (weight : Int) : Option Level := all.find? fun l => (l.weight : Int) == weight

end Level

end Postprocessor
