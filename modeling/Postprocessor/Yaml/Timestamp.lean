import Postprocessor.Value.Foreign

/-!
# Dates and timestamps in a Yaml text

A date is a year of four digits, a month and a day with hyphens between them.  A time may follow,
with a fraction of a second, and then the offset of its clock: a `Z`, or a sign with hours and
maybe minutes.

* `TimeFields`: the numbers of a date or a timestamp.
* `TimeFields.read?`: the numbers that a text holds.
* `TimeFields.isPlain`: whether they make a text without a tag a date or a timestamp.
* `TimeFields.value`: the date or the timestamp, if there is such a one.
-/

namespace Postprocessor.Yaml

/-- The time of a timestamp. -/
structure TimeOfDay where
  hour : Nat
  minute : Nat
  second : Nat
  /-- The digits of the fraction of a second. -/
  fraction : List Char
  /-- The minutes by which the clock is ahead. -/
  offset : Option Int

/-- The numbers of a date or a timestamp. -/
structure TimeFields where
  year : Nat
  month : Nat
  day : Nat
  /-- Whether the month and the day have two digits each. -/
  isPadded : Bool
  time : Option TimeOfDay

namespace TimeFields

/-! ### Reading -/

/-- The number that digits stand for. -/
def numberOf (digits : List Char) : Nat := digits.foldl (fun n c => 10 * n + (c.toNat - 48)) 0

/-- The digits at the start of a text, of which there are at least `least`, and what follows the
first `most` of them. -/
def digits? (least most : Nat) (cs : List Char) : Option (List Char × List Char) :=
  let digits := (cs.take most).takeWhile Char.isDigit
  if digits.length < least then none else some (digits, cs.drop digits.length)

/-- What follows a character at the start of a text. -/
def after? (c : Char) : List Char → Option (List Char)
  | [] => none
  | d :: rest => if d == c then some rest else none

/-- A space or a tab. -/
def isSpace (c : Char) : Bool := c == ' ' || c == '\t'

/-- What follows the sign or the blanks between the date and the time. -/
def afterDate? (cs : List Char) : Option (List Char) :=
  match cs with
  | c :: rest =>
    if c == 'T' || c == 't' then some rest
    else if isSpace c then some (rest.dropWhile isSpace)
    else none
  | [] => none

/-- The fraction of a second at the start of a text, and the rest. -/
def fractionOf : List Char → List Char × List Char
  | '.' :: rest => (rest.takeWhile Char.isDigit, rest.dropWhile Char.isDigit)
  | cs => ([], cs)

/-- The minutes by which a clock is ahead, from a text that says nothing else. -/
def offset? (cs : List Char) : Option (Option Int) :=
  if cs.isEmpty then some none
  else match cs.dropWhile isSpace with
  | [] => none
  | ['Z'] => some (some 0)
  | sign :: rest => do
    if sign != '+' && sign != '-' then none
    let (hours, rest) ← digits? 1 2 rest
    let minutes ← if rest.isEmpty then some [] else do
      let (minutes, rest) ← digits? 2 2 (← after? ':' rest)
      if rest.isEmpty then some minutes else none
    let n : Int := 60 * numberOf hours + numberOf minutes
    return some (if sign == '-' then -n else n)

/-- The time that a text holds. -/
def time? (cs : List Char) : Option TimeOfDay := do
  let (hour, rest) ← digits? 1 2 cs
  let (minute, rest) ← digits? 2 2 (← after? ':' rest)
  let (second, rest) ← digits? 2 2 (← after? ':' rest)
  let (fraction, rest) := fractionOf rest
  return ⟨numberOf hour, numberOf minute, numberOf second, fraction, ← offset? rest⟩

/-- The numbers that a text holds. -/
def read? (cs : List Char) : Option TimeFields := do
  let (year, rest) ← digits? 4 4 cs
  let (month, rest) ← digits? 1 2 (← after? '-' rest)
  let (day, rest) ← digits? 1 2 (← after? '-' rest)
  let time ← if rest.isEmpty then some none else (time? (← afterDate? rest)).map some
  return ⟨numberOf year, numberOf month, numberOf day, month.length == 2 && day.length == 2, time⟩

/-- Whether a text without a tag that holds these numbers is a date or a timestamp. -/
def isPlain (f : TimeFields) : Bool := f.isPadded || f.time.isSome

/-! ### Values -/

/-- The microseconds of a fraction of a second; what is smaller is cut off. -/
def microseconds (fraction : List Char) : Nat :=
  numberOf (fraction.take 6) * 10 ^ (6 - fraction.length)

/-- The date or the timestamp of given numbers. -/
def value (f : TimeFields) : Except CalendarFault Foreign := do
  match f.time with
  | none => return .date (← Date.ofFields f.year f.month f.day)
  | some t =>
    let offset ← t.offset.mapM ClockOffset.ofMinutes
    let date ← Date.ofFields f.year f.month f.day
    let time ← DayTime.check ⟨t.hour, t.minute, t.second, microseconds t.fraction⟩
    return .timestamp ⟨date, time, offset⟩

end TimeFields

end Postprocessor.Yaml
