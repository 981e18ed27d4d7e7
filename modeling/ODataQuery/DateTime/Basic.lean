/-!
# Dates with a time of day

A point of local time in the Gregorian calendar, without a time zone, to the nanosecond.

* `Calendar.isDate` and `Calendar.isTime` say which fields make a point of time; the 60th second of
  any minute is allowed, as a leap second, and the `DateTime` type holds valid fields only.
* Points of time are ordered by their fields, from the year down (`compare`).
-/

set_option autoImplicit false

namespace ODataQuery

namespace Calendar

/-- Has the year a 29th of February. -/
def isLeapYear (year : Int) : Bool :=
  year % 4 == 0 && (year % 100 != 0 || year % 400 == 0)

/-- How many days a month has. -/
def daysInMonth (year : Int) (month : Nat) : Nat :=
  if month = 2 then (if isLeapYear year then 29 else 28)
  else if month = 4 ∨ month = 6 ∨ month = 9 ∨ month = 11 then 30
  else 31

/-- Do the fields denote a day of a supported year. -/
def isDate (year : Int) (month day : Nat) : Bool :=
  -262143 ≤ year && year ≤ 262142 && 1 ≤ month && month ≤ 12
    && 1 ≤ day && day ≤ daysInMonth year month

/-- Do the fields denote a time of day. -/
def isTime (hour minute second nanosecond : Nat) : Bool :=
  hour < 24 && minute < 60 && second ≤ 60 && nanosecond < 1000000000

end Calendar

/-- A day and a time of day.  Second 60 is a leap second. -/
structure DateTime where
  year : Int
  month : Nat
  day : Nat
  hour : Nat
  minute : Nat
  second : Nat
  nanosecond : Nat
  isDate : Calendar.isDate year month day = true
  isTime : Calendar.isTime hour minute second nanosecond = true
  deriving DecidableEq

namespace DateTime

/-- The point of time of the given fields, if they denote one. -/
def ofFields? (year : Int) (month day hour minute second nanosecond : Nat) : Option DateTime :=
  if hdate : Calendar.isDate year month day = true then
    if htime : Calendar.isTime hour minute second nanosecond = true then
      some ⟨year, month, day, hour, minute, second, nanosecond, hdate, htime⟩
    else none
  else none

theorem ofFields?_fields (t : DateTime) :
    ofFields? t.year t.month t.day t.hour t.minute t.second t.nanosecond = some t := by
  simp [ofFields?, t.isDate, t.isTime]

/-- The fields, from the year down. -/
def fields (t : DateTime) : List Int :=
  [t.year, t.month, t.day, t.hour, t.minute, t.second, t.nanosecond]

/-- The earlier of two points of time is the one with the smaller first field that differs. -/
def compare (a b : DateTime) : Ordering :=
  Ord.compare a.fields b.fields

/-- The second as clocks without leap seconds show it. -/
def clockSecond (t : DateTime) : Nat :=
  min t.second 59

instance : Repr DateTime where
  reprPrec t := reprPrec t.fields

end DateTime
end ODataQuery
