/-!
# Days and moments

Days are numbered through the Gregorian calendar, which is extended to all
years before its introduction. A moment is a day, a second of that day and a
number of nanoseconds. A leap second is a second in which the nanoseconds run
on past a whole second, so it comes after the second before it and ahead of
the next minute.
-/

namespace RecordRules

def isLeapYear (y : Int) : Bool := y % 4 == 0 && (y % 100 != 0 || y % 400 == 0)

def monthLengths (y : Int) : List Nat :=
  [31, if isLeapYear y then 29 else 28, 31, 30, 31, 30, 31, 31, 30, 31, 30, 31]

/-- The days of the years before `y`, counted from the year 1. -/
def daysBeforeYear (y : Int) : Int :=
  let p := y - 1
  365 * p + p.fdiv 4 - p.fdiv 100 + p.fdiv 400

def daysBeforeMonth (y : Int) (month : Nat) : Nat :=
  ((monthLengths y).take (month - 1)).foldl (· + ·) 0

/-- The years that dates may lie in. -/
def yearInRange (y : Int) : Bool := -262143 ≤ y && y ≤ 262142

def dayNumber? (y : Int) (month day : Nat) : Option Int :=
  match (monthLengths y)[month - 1]? with
  | some length =>
    if yearInRange y && 1 ≤ month && 1 ≤ day && day ≤ length then
      some (daysBeforeYear y + daysBeforeMonth y month + day)
    else none
  | none => none

/-- A point in time. -/
structure Moment where
  day : Int
  second : Nat
  nano : Nat
  deriving DecidableEq, Repr

namespace Moment

def compare (a b : Moment) : Ordering :=
  (Ord.compare a.day b.day).then
    ((Ord.compare a.second b.second).then (Ord.compare a.nano b.nano))

/-- The moment that clocks show which are `offset` seconds behind. -/
def earlier (m : Moment) (offset : Int) : Moment :=
  let t : Int := m.second - offset
  { m with day := m.day + t.fdiv 86400, second := (t.fmod 86400).toNat }

/-- A time of day as a second and nanoseconds; the 61st second of a minute is
its last second run on. -/
def ofClock? (day : Int) (hour minute second nano : Nat) : Option Moment :=
  if hour ≤ 23 && minute ≤ 59 && second ≤ 60 then
    if second = 60 then some ⟨day, hour * 3600 + minute * 60 + 59, 1000000000 + nano⟩
    else some ⟨day, hour * 3600 + minute * 60 + second, nano⟩
  else none

end Moment

end RecordRules
