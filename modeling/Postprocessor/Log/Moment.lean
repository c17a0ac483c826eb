import Postprocessor.Calendar
import Postprocessor.Decimal.Literal
import Postprocessor.Value

/-!
# Moments

A record bears the moment at which it was made, to the microsecond.

* `Moment`: microseconds since the first of January 1970, within the years 1 to 9999.
* `Moment.ofValue`: the moment that a number of seconds stands for.
* `Moment.civil`: the date and the time of day of a moment, in coordinated universal time.
* `Moment.stamp`, `Moment.iso`: the two ways to write it.
-/

namespace Postprocessor.Log

/-! ### Moments -/

/-- Microseconds since the first of January 1970. -/
structure Moment where
  micros : Int
  deriving DecidableEq, Repr, Inhabited

/-- Why a value is no moment. -/
inductive MomentFault where
  | notNumber
  | undefined
  /-- More seconds than the clock counts. -/
  | beyondClock
  /-- A year beyond those that a date can have. -/
  | beyondDates
  | beyondYears (year : Int)
  deriving DecidableEq, Repr

namespace MomentFault

/-- The kind under which a fault is reported. -/
def kind : MomentFault → String
  | .notNumber => "TypeError"
  | .undefined | .beyondYears _ => "ValueError"
  | .beyondClock => "OverflowError"
  | .beyondDates => "OSError"

/-- The text that is reported. -/
def message : MomentFault → String
  | .notNumber => "not a number of seconds"
  | .undefined => "Invalid value NaN (not a number)"
  | .beyondClock => "timestamp out of range for platform time_t"
  | .beyondDates => "[Errno 75] Value too large for defined data type"
  | .beyondYears year => s!"year {year} is out of range"

end MomentFault

/-- The microseconds of a second. -/
abbrev perSecond : Int := 1000000

/-- The seconds of a day. -/
abbrev perDay : Int := 86400

/-- The number of seconds, in microseconds, that a number with a fraction stands for.  The fraction
is multiplied as such a number too, and the product rounded, a tie going to the even one. -/
def microsOf (negative : Bool) (rank : Nat) : Int :=
  let u := Binary64.units rank
  let whole : Int := (u / unitsPerOne : Nat)
  let part : Int :=
    match Binary64.nearest false (u % unitsPerOne * perSecond.toNat) unitsPerOne with
    | .finite _ r => (Binary64.roundEven (Binary64.units r) unitsPerOne : Nat)
    | _ => 0
  let magnitude := whole * perSecond + part
  if negative then -magnitude else magnitude

/-- The microseconds that a value stands for.  A number with a fraction is held against the end of
the clock as such a number, so `2^63` seconds are still counted, but no date has them. -/
def secondsOf (v : Value) : Except MomentFault Int :=
  match v with
  | .float (.undefined _) => .error .undefined
  | .float (.infinite _) => .error .beyondClock
  | .float (.finite s r) =>
    if microsOf s r = 2 ^ 63 * perSecond then .error .beyondDates else .ok (microsOf s r)
  | v =>
    match v.int? with
    | some i => .ok (i * perSecond)
    | none => .error .notNumber

/-- The year as a date of 32 bits holds it: years are counted from 1900 there. -/
def yearShown (year : Int) : Except MomentFault Int :=
  if -(2 ^ 31) ≤ year - 1900 ∧ year - 1900 < 2 ^ 31 then .ok (year.bmod (2 ^ 32))
  else .error .beyondDates

namespace Moment

/-- The day of a moment, counted from the first of January 1970. -/
def day (m : Moment) : Int := (m.micros.fdiv perSecond).fdiv perDay

/-- The second of the day of a moment. -/
def second (m : Moment) : Nat := ((m.micros.fdiv perSecond).fmod perDay).toNat

/-- The microsecond of the second of a moment. -/
def microsecond (m : Moment) : Nat := (m.micros.fmod perSecond).toNat

/-- The moment that a number of seconds stands for. -/
def ofValue (v : Value) : Except MomentFault Moment := do
  let m : Moment := ⟨← secondsOf v⟩
  let seconds := m.micros.fdiv perSecond
  if seconds < -(2 ^ 63) ∨ 2 ^ 63 ≤ seconds then throw .beyondClock
  let year ← yearShown (Date.ofNumber m.day).year
  if year < 1 ∨ 9999 < year then throw (.beyondYears year)
  return m

/-- The time of day of a moment. -/
def time (m : Moment) : DayTime := .ofSeconds m.second m.microsecond

/-- The date, with at least `width` digits for the year, and the time of day to the second. -/
def civil (m : Moment) (width : Nat) : List Char :=
  (Date.ofNumber m.day).text width ++ 'T' :: m.time.text

/-- The moment to the millisecond, the rest cut off. -/
def stamp (m : Moment) : String :=
  String.ofList (m.civil 1 ++ '.' :: padded 3 (m.microsecond / 1000) ++ ['Z'])

/-- The moment to the microsecond, which is left out if it is zero. -/
def iso (m : Moment) : String :=
  String.ofList (m.civil 4
    ++ m.time.fraction
    ++ "+00:00".toList)

end Moment

end Postprocessor.Log
