import HouseStyle.Text.Find

namespace HouseStyle.Shell.Calendar

structure Moment where
  year : Int
  month : Nat
  day : Nat
  hour : Nat := 0
  minute : Nat := 0
  second : Nat := 0
  deriving DecidableEq, Repr

def isLeap (year : Int) : Bool :=
  year % 4 = 0 && (year % 100 ≠ 0 || year % 400 = 0)

def daysIn (year : Int) (month : Nat) : Nat :=
  if month = 2 then (if isLeap year then 29 else 28)
  else if [4, 6, 9, 11].contains month then 30
  else 31

/-- The days from the start of the year 1970 to a date. Years are counted from March on, so that the
odd day is the last one. -/
def daysBefore (year : Int) (month day : Nat) : Int :=
  let shifted := if month ≤ 2 then year - 1 else year
  let era := shifted / 400
  let ofEra := shifted - era * 400
  let monthIndex : Int := if month ≤ 2 then month + 9 else (month : Int) - 3
  let ofYear := (153 * monthIndex + 2) / 5 + (day : Int) - 1
  let dayOfEra := ofEra * 365 + ofEra / 4 - ofEra / 100 + ofYear
  era * 146097 + dayOfEra - 719468

def Moment.seconds (moment : Moment) : Int :=
  daysBefore moment.year moment.month moment.day * 86400 +
    (moment.hour * 3600 + moment.minute * 60 + moment.second : Nat)

def Moment.isValid (moment : Moment) : Bool :=
  1 ≤ moment.month && moment.month ≤ 12 && 1 ≤ moment.day &&
    moment.day ≤ daysIn moment.year moment.month && moment.hour ≤ 23 && moment.minute ≤ 59 &&
    moment.second ≤ 60

def Moment.ofSeconds (seconds : Int) : Moment :=
  let days := seconds / 86400
  let rest := (seconds % 86400).toNat
  let shifted := days + 719468
  let era := shifted / 146097
  let dayOfEra := shifted - era * 146097
  let yearOfEra := (dayOfEra - dayOfEra / 1460 + dayOfEra / 36524 - dayOfEra / 146096) / 365
  let dayOfYear := dayOfEra - (365 * yearOfEra + yearOfEra / 4 - yearOfEra / 100)
  let monthIndex := (5 * dayOfYear + 2) / 153
  let day := (dayOfYear - (153 * monthIndex + 2) / 5 + 1).toNat
  let month := (if monthIndex < 10 then monthIndex + 3 else monthIndex - 9).toNat
  let year := yearOfEra + era * 400 + (if month ≤ 2 then 1 else 0)
  { year, month, day, hour := rest / 3600, minute := rest / 60 % 60, second := rest % 60 }

def weekday (seconds : Int) : Nat :=
  ((seconds / 86400 + 4) % 7).toNat

def Moment.dayOfYear (moment : Moment) : Nat :=
  (daysBefore moment.year moment.month moment.day - daysBefore moment.year 1 1).toNat

end HouseStyle.Shell.Calendar
