import Postprocessor.Decimal.Basic

/-!
# The calendar

* `Date`: a date of the Gregorian calendar, which is also used for the days before it was made.
* `Date.number`, `Date.ofNumber`: the days counted from the first of January 1970, and back.
* `Timestamp`: a date with a time of day, and maybe with the offset of its clock.
* `Timestamp.same`: equality.  With an offset the moments are compared, without one the fields.
* `written`, `shown`: a date and a timestamp as texts, and as messages show them.
-/

namespace Postprocessor

/-- A number of at least `width` digits. -/
def padded (width n : Nat) : List Char :=
  let digits := natText n
  List.replicate (width - digits.length) '0' ++ digits

/-- What can be wrong with a date or a time. -/
inductive CalendarFault where
  | badYear (year : Int)
  | badMonth
  | badDay
  | badHour
  | badMinute
  | badSecond
  /-- A clock that is a day or more ahead or behind, as messages show the difference. -/
  | badOffset (shown : String)
  deriving DecidableEq, Repr, Inhabited

/-- The text that is reported. -/
def CalendarFault.message : CalendarFault → String
  | .badYear year => s!"year {year} is out of range"
  | .badMonth => "month must be in 1..12"
  | .badDay => "day is out of range for month"
  | .badHour => "hour must be in 0..23"
  | .badMinute => "minute must be in 0..59"
  | .badSecond => "second must be in 0..59"
  | .badOffset shown =>
    "offset must be a timedelta strictly between -timedelta(hours=24) and timedelta(hours=24), not "
      ++ shown ++ "."

/-! ### Dates -/

/-- A date. -/
structure Date where
  year : Int
  /-- From 1 to 12. -/
  month : Nat
  /-- From 1 to 31. -/
  day : Nat
  deriving DecidableEq, Repr, Inhabited

namespace Date

/-- The days of the years of a cycle of four hundred. -/
abbrev cycleDays : Int := 146097

/-- The date of a day, counted from the first of January 1970.  Years are counted from March, so
that the leap day is the last of its year: an era of four hundred years has `cycleDays` days, and
a month of such a year begins `(153 m + 2) / 5` days after the first of March. -/
def ofNumber (day : Int) : Date :=
  let z := day + 719468
  let era := z.fdiv cycleDays
  let ofEra := (z - era * cycleDays).toNat
  let yearOfEra := (ofEra - ofEra / 1460 + ofEra / 36524 - ofEra / 146096) / 365
  let ofYear := ofEra - (365 * yearOfEra + yearOfEra / 4 - yearOfEra / 100)
  let m := (5 * ofYear + 2) / 153
  let month := if m < 10 then m + 3 else m - 9
  ⟨yearOfEra + era * 400 + (if month ≤ 2 then 1 else 0), month, ofYear - (153 * m + 2) / 5 + 1⟩

/-- The day of a date, counted from the first of January 1970. -/
def number (d : Date) : Int :=
  let year := if d.month ≤ 2 then d.year - 1 else d.year
  let m : Int := if d.month ≤ 2 then d.month + 9 else d.month - 3
  365 * year + year.fdiv 4 - year.fdiv 100 + year.fdiv 400 + (153 * m + 2) / 5 + d.day - 719469

/-- A year with a leap day. -/
def isLeap (year : Int) : Bool := year % 4 == 0 && (year % 100 != 0 || year % 400 == 0)

/-- The number of days of a month. -/
def daysIn (year : Int) (month : Nat) : Nat :=
  if month = 2 then (if isLeap year then 29 else 28)
  else if [4, 6, 9, 11].contains month then 30
  else 31

/-- The date of a year, a month and a day. -/
def ofFields (year : Int) (month day : Nat) : Except CalendarFault Date :=
  if year < 1 ∨ 9999 < year then .error (.badYear year)
  else if month < 1 ∨ 12 < month then .error .badMonth
  else if day < 1 ∨ daysIn year month < day then .error .badDay
  else .ok ⟨year, month, day⟩

/-- The year in at least `width` digits, the month and the day, with hyphens between them. -/
def text (d : Date) (width : Nat) : List Char :=
  padded width d.year.toNat ++ '-' :: padded 2 d.month ++ '-' :: padded 2 d.day

/-- A date as a text. -/
def written (d : Date) : String := String.ofList (d.text 4)

/-- The arguments that make a date. -/
def arguments (d : Date) : List String := [toString d.year, toString d.month, toString d.day]

/-- A date in a message. -/
def shown (d : Date) : String := "datetime.date(" ++ ", ".intercalate d.arguments ++ ")"

end Date

/-! ### Timestamps -/

/-- A time of day. -/
structure DayTime where
  /-- Below 24. -/
  hour : Nat
  /-- Below 60. -/
  minute : Nat
  /-- Below 60. -/
  second : Nat
  /-- Below a million. -/
  microsecond : Nat
  deriving DecidableEq, Repr, Inhabited

namespace DayTime

/-- The second of the day. -/
def seconds (t : DayTime) : Nat := 3600 * t.hour + 60 * t.minute + t.second

/-- The time of a second of the day and a microsecond. -/
def ofSeconds (second microsecond : Nat) : DayTime :=
  ⟨second / 3600, second / 60 % 60, second % 60, microsecond⟩

/-- The time to the second, with colons. -/
def text (t : DayTime) : List Char :=
  padded 2 t.hour ++ ':' :: padded 2 t.minute ++ ':' :: padded 2 t.second

/-- The microseconds after a point, left out if they are zero. -/
def fraction (t : DayTime) : List Char :=
  if t.microsecond = 0 then [] else '.' :: padded 6 t.microsecond

/-- A time that the clock shows. -/
def check (t : DayTime) : Except CalendarFault DayTime :=
  if 24 ≤ t.hour then .error .badHour
  else if 60 ≤ t.minute then .error .badMinute
  else if 60 ≤ t.second then .error .badSecond
  else .ok t

/-- The arguments that make a time: what is zero at its end is left out, down to the minute. -/
def arguments (t : DayTime) : List String :=
  let small := if t.microsecond ≠ 0 then [t.second, t.microsecond]
    else if t.second ≠ 0 then [t.second]
    else []
  (t.hour :: t.minute :: small).map fun n => toString n

end DayTime

/-- How far a clock is ahead of coordinated universal time, in minutes. -/
structure ClockOffset where
  minutes : Int
  deriving DecidableEq, Repr, Inhabited

namespace ClockOffset

/-- The minutes of a day. -/
abbrev dayMinutes : Int := 1440

/-- A length of time in a message: whole days, and the seconds that remain. -/
def spanShown (minutes : Int) : String :=
  let days := minutes.fdiv dayMinutes
  let seconds := minutes.fmod dayMinutes * 60
  let parts := (if days = 0 then [] else [s!"days={days}"])
    ++ (if seconds = 0 then [] else [s!"seconds={seconds}"])
  "datetime.timedelta(" ++ (if parts.isEmpty then "0" else ", ".intercalate parts) ++ ")"

/-- The offset of a number of minutes, which is less than a day. -/
def ofMinutes (minutes : Int) : Except CalendarFault ClockOffset :=
  if minutes.natAbs < dayMinutes.toNat then .ok ⟨minutes⟩
  else .error (.badOffset (spanShown minutes))

/-- A sign, the hours and the minutes. -/
def text (o : ClockOffset) : List Char :=
  let n := o.minutes.natAbs
  (if o.minutes < 0 then '-' else '+') :: padded 2 (n / 60) ++ ':' :: padded 2 (n % 60)

/-- An offset in a message. -/
def shown (o : ClockOffset) : String :=
  if o.minutes = 0 then "datetime.timezone.utc"
  else "datetime.timezone(" ++ spanShown o.minutes ++ ")"

end ClockOffset

/-- A date with a time of day. -/
structure Timestamp where
  date : Date
  time : DayTime
  offset : Option ClockOffset
  deriving DecidableEq, Repr, Inhabited

namespace Timestamp

/-- The seconds of a day. -/
abbrev daySeconds : Int := 86400

/-- The second at which a clock shows a timestamp, and the microsecond. -/
def moment (t : Timestamp) (o : ClockOffset) : Int × Nat :=
  (t.date.number * daySeconds + t.time.seconds - o.minutes * 60, t.time.microsecond)

/-- Equality. -/
def same (s t : Timestamp) : Bool :=
  match s.offset, t.offset with
  | some o, some p => s.moment o == t.moment p
  | none, none => s == t
  | _, _ => false

/-- A timestamp as a text. -/
def written (t : Timestamp) : String :=
  String.ofList (t.date.text 4 ++ ' ' :: t.time.text ++ t.time.fraction
    ++ (t.offset.map ClockOffset.text).getD [])

/-- A timestamp in a message. -/
def shown (t : Timestamp) : String :=
  let offset := t.offset.toList.map fun o => "tzinfo=" ++ o.shown
  "datetime.datetime("
    ++ ", ".intercalate (t.date.arguments ++ t.time.arguments ++ offset) ++ ")"

end Timestamp

end Postprocessor
