import BondingPool.Text.Numeral

/-!
# Dates and moments

A date is a day of the Gregorian calendar in the years 1 to 9999. A moment is a time of such a
day, down to the microsecond, with its offset from universal time if that is known. Moments with
a known offset are compared as instants and the others as they are written; one of either kind
has no order among the other.
-/

namespace BondingPool

inductive CalendarFault
  | year (n : Nat)
  | month
  | day
  | hour
  | minute
  | second
  | offset (minutes : Int)
  deriving DecidableEq, Repr

def isLeapYear (year : Nat) : Bool := year % 4 == 0 && (year % 100 != 0 || year % 400 == 0)

def daysInMonth (year month : Nat) : Nat :=
  if month = 2 then if isLeapYear year then 29 else 28
  else if month = 4 ∨ month = 6 ∨ month = 9 ∨ month = 11 then 30
  else 31

structure Date where
  year : Nat
  month : Nat
  day : Nat
  deriving DecidableEq, Repr

namespace Date

def ofNumbers (year month day : Nat) : Except CalendarFault Date :=
  if year < 1 ∨ 9999 < year then .error (.year year)
  else if month < 1 ∨ 12 < month then .error .month
  else if day < 1 ∨ daysInMonth year month < day then .error .day
  else .ok ⟨year, month, day⟩

def daysBefore (year : Nat) : Nat → Nat
  | 0 => 0
  | month + 1 => if month = 0 then 0 else daysBefore year month + daysInMonth year month

def number (d : Date) : Nat :=
  let past := d.year - 1
  365 * past + past / 4 - past / 100 + past / 400 + daysBefore d.year d.month + d.day

def digits (d : Date) : List Char :=
  Text.decimalDigits 4 d.year ++ '-' :: Text.decimalDigits 2 d.month ++ '-' :: Text.decimalDigits 2 d.day

def text (d : Date) : String := String.ofList d.digits

end Date

structure Moment where
  date : Date
  hour : Nat
  minute : Nat
  second : Nat
  microsecond : Nat
  offset : Option Int
  deriving DecidableEq, Repr

namespace Moment

def admitOffset (minutes : Int) : Except CalendarFault Int :=
  if minutes.natAbs < 1440 then .ok minutes else .error (.offset minutes)

def ofNumbers (year month day hour minute second microsecond : Nat) (offset : Option Int) :
    Except CalendarFault Moment := do
  let offset ← match offset with
    | some minutes => (admitOffset minutes).map some
    | none => .ok none
  let date ← Date.ofNumbers year month day
  if 23 < hour then .error .hour
  else if 59 < minute then .error .minute
  else if 59 < second then .error .second
  else return ⟨date, hour, minute, second, microsecond, offset⟩

def written (m : Moment) : Nat :=
  (((m.date.number * 24 + m.hour) * 60 + m.minute) * 60 + m.second) * 1000000 + m.microsecond

/-- Microseconds of universal time; an unknown offset counts as none. -/
def instant (m : Moment) : Int := m.written - m.offset.getD 0 * 60000000

def same (m n : Moment) : Bool :=
  m.offset.isSome == n.offset.isSome && m.instant == n.instant

def before? (m n : Moment) : Option Bool :=
  if m.offset.isSome = n.offset.isSome then some (m.instant < n.instant) else none

def offsetDigits (minutes : Int) : List Char :=
  (if minutes < 0 then '-' else '+') ::
    Text.decimalDigits 2 (minutes.natAbs / 60) ++ ':' :: Text.decimalDigits 2 (minutes.natAbs % 60)

def digits (m : Moment) : List Char :=
  m.date.digits ++ ' ' :: Text.decimalDigits 2 m.hour ++ ':' :: Text.decimalDigits 2 m.minute ++
    ':' :: Text.decimalDigits 2 m.second ++
    (if m.microsecond = 0 then [] else '.' :: Text.decimalDigits 6 m.microsecond) ++
    (m.offset.map offsetDigits).getD []

def text (m : Moment) : String := String.ofList m.digits

end Moment

def shownOffset (minutes : Int) : String :=
  let days := minutes / 1440
  let seconds := minutes % 1440 * 60
  if seconds = 0 then s!"datetime.timedelta(days={days})"
  else s!"datetime.timedelta(days={days}, seconds={seconds})"

def CalendarFault.message : CalendarFault → String
  | .year n => s!"year {n} is out of range"
  | .month => "month must be in 1..12"
  | .day => "day is out of range for month"
  | .hour => "hour must be in 0..23"
  | .minute => "minute must be in 0..59"
  | .second => "second must be in 0..59"
  | .offset minutes =>
    "offset must be a timedelta strictly between -timedelta(hours=24) and timedelta(hours=24), " ++
      s!"not {shownOffset minutes}."

end BondingPool
