import HouseStyle.Shell.Calendar
import HouseStyle.Text.Digits

namespace HouseStyle.Shell.DateFormat

def monthNames : List String :=
  ["January", "February", "March", "April", "May", "June", "July", "August", "September",
    "October", "November", "December"]

def dayNames : List String :=
  ["Sunday", "Monday", "Tuesday", "Wednesday", "Thursday", "Friday", "Saturday"]

structure Layout where
  padding : Option Char := none
  upper : Bool := false
  swapped : Bool := false
  width : Option Nat := none
  colons : Nat := 0

inductive Casing where
  | raised
  | lowered
  | kept

inductive Part where
  | number (value : Int) (digits : Nat) (blank : Bool)
  | years (value : Int) (digits : Nat)
  | text (text : List Char) (casing : Casing)
  | offset (digits : Nat) (shown : String)
  | pattern (pattern : String)
  | day
  | fraction

def upperCase (text : List Char) : List Char :=
  text.map Char.toUpper

def padded (layout : Layout) (digits : Nat) (blank : Bool) (sign shown : List Char) : List Char :=
  let least := Nat.max digits (layout.width.getD 0)
  let fill := least - sign.length - shown.length
  match layout.padding.getD (if blank then '_' else '0') with
  | '-' => sign ++ shown
  | '_' => List.replicate fill ' ' ++ sign ++ shown
  | _ => sign ++ List.replicate fill '0' ++ shown

def signOf (value : Int) : List Char :=
  if value < 0 then ['-'] else []

/-- A number of years. If a plus is asked for it stands before those that need more digits than usual,
or get more. -/
def yearsText (layout : Layout) (digits : Nat) (value : Int) : List Char :=
  let isLong := (if digits = 2 then 99 else 9999) < value || digits < layout.width.getD 0
  let sign := if layout.padding = some '+' && isLong && 0 ≤ value then ['+'] else signOf value
  padded layout digits false sign (toString value.natAbs).toList

def filled (layout : Layout) (text : List Char) : List Char :=
  let pad := if layout.padding = some '0' || layout.padding = some '+' then '0' else ' '
  if layout.padding = some '-' then text
  else List.replicate ((layout.width.getD 0) - text.length) pad ++ text

def laidOut (layout : Layout) (casing : Casing) (text : List Char) : List Char :=
  filled layout <| match casing with
    | .raised => if layout.upper || layout.swapped then upperCase text else text
    | .lowered =>
      if layout.swapped then text.map Char.toLower
      else if layout.upper then upperCase text else text
    | .kept => text

def fractionText (layout : Layout) (time : Int) : List Char :=
  let nanos := (toString (time % 1000000 + 1000000)).toList.tail ++ "000".toList
  let width := match layout.width with
    | none | some 0 => 9
    | some width => width
  let shown := match ((nanos.take width).reverse.dropWhile (· = '0')).reverse with
    | [] => ['0']
    | shown => shown
  match layout.padding with
  | some '-' => shown
  | some '_' => shown ++ List.replicate (width - shown.length) ' '
  | _ => shown ++ List.replicate (width - shown.length) '0'

/-- The year and the number of the week, by which weeks start on Monday and belong to the year in
which most of their days are. -/
def isoWeek (moment : Calendar.Moment) (weekday : Nat) : Int × Nat :=
  let fromMonday : Int := ((weekday + 6) % 7 : Nat)
  let weeksIn (year : Int) : Int :=
    let first := (Calendar.weekday (Calendar.daysBefore year 1 1 * 86400) : Int)
    if first = 4 || (first = 3 && Calendar.isLeap year) then 53 else 52
  let week := ((moment.dayOfYear : Int) - fromMonday + 10) / 7
  if week < 1 then (moment.year - 1, (weeksIn (moment.year - 1)).toNat)
  else if weeksIn moment.year < week then (moment.year + 1, 1)
  else (moment.year, week.toNat)

def part? (seconds : Int) (layout : Layout) (letter : Char) : Option Part :=
  let moment := Calendar.Moment.ofSeconds seconds
  let weekday := Calendar.weekday seconds
  let year := moment.year
  let number (value : Nat) (digits : Nat) : Option Part := some (.number value digits false)
  let spaced (value : Nat) : Option Part := some (.number value 2 true)
  let half := if moment.hour % 12 = 0 then 12 else moment.hour % 12
  let monthName := ((monthNames[moment.month - 1]?).getD "").toList
  let dayName := ((dayNames[weekday]?).getD "").toList
  match letter with
  | 'a' => some (.text (dayName.take 3) .raised)
  | 'A' => some (.text dayName .raised)
  | 'b' | 'h' => some (.text (monthName.take 3) .raised)
  | 'B' => some (.text monthName .raised)
  | 'c' => some (.pattern "%a %b %e %H:%M:%S %Y")
  | 'C' => some (.years (year / 100) 2)
  | 'd' => number moment.day 2
  | 'D' | 'x' => some (.pattern "%m/%d/%y")
  | 'e' => spaced moment.day
  | 'F' => some .day
  | 'g' => some (.years ((isoWeek moment weekday).1 % 100) 2)
  | 'G' => some (.years (isoWeek moment weekday).1 4)
  | 'H' => number moment.hour 2
  | 'I' => number half 2
  | 'j' => number (moment.dayOfYear + 1) 3
  | 'k' => spaced moment.hour
  | 'l' => spaced half
  | 'm' => number moment.month 2
  | 'M' => number moment.minute 2
  | 'n' => some (.text ['\n'] .raised)
  | 'N' => some .fraction
  | 'p' => some (.text (if moment.hour < 12 then "AM" else "PM").toList .lowered)
  | 'P' => some (.text (if moment.hour < 12 then "am" else "pm").toList .kept)
  | 'q' => number ((moment.month + 2) / 3) 1
  | 'r' => some (.pattern "%I:%M:%S %p")
  | 'R' => some (.pattern "%H:%M")
  | 's' => some (.number seconds 1 false)
  | 'S' => number moment.second 2
  | 't' => some (.text ['\t'] .raised)
  | 'T' | 'X' => some (.pattern "%H:%M:%S")
  | 'u' => number (if weekday = 0 then 7 else weekday) 1
  | 'U' => number ((moment.dayOfYear + 7 - weekday) / 7) 2
  | 'V' => number (isoWeek moment weekday).2 2
  | 'w' => number weekday 1
  | 'W' => number ((moment.dayOfYear + 7 - (weekday + 6) % 7) / 7) 2
  | 'y' => some (.years (year % 100) 2)
  | 'Y' => some (.years year 4)
  | 'z' =>
    match layout.colons with
    | 0 => some (.offset 5 "0")
    | 1 => some (.offset 6 "0:00")
    | 2 => some (.offset 9 "0:00:00")
    | 3 => some (.offset 3 "0")
    | _ => none
  | 'Z' => some (.text "UTC".toList .lowered)
  | '%' => some (.text ['%'] .raised)
  | _ => none

def isMark (c : Char) : Bool :=
  "_-0+^#".toList.contains c

def Layout.add (layout : Layout) : Char → Layout
  | '^' => { layout with upper := true }
  | '#' => { layout with swapped := true }
  | mark => { layout with padding := some mark }

def takesModifier (modifier letter : Char) : Bool :=
  let refused := if modifier = 'E' then "aAbBhdDeFHIkljMmNSUVgGWw%" else "aADcFxXY%"
  !refused.toList.contains letter

def formatIn (time : Int) : Nat → List Char → List Char
  | 0, _ => []
  | _ + 1, [] => []
  | steps + 1, c :: rest =>
    if c ≠ '%' then c :: formatIn time steps rest
    else
      let marks := rest.takeWhile isMark
      let digits := (rest.drop marks.length).takeWhile Char.isDigit
      let behind := rest.drop (marks.length + digits.length)
      let colons := behind.takeWhile (· = ':')
      let behind := behind.drop colons.length
      let modifier := behind.head?.filter fun c => c = 'E' || c = 'O'
      let behind := if modifier.isSome then behind.tail else behind
      let width := if digits = [] then none else some (Text.digitsValue 10 digits)
      let layout := marks.foldl Layout.add { width, colons := colons.length : Layout }
      let after := behind.tail
      let known := match behind with
        | [] => none
        | letter :: _ =>
          let fits := modifier.all (takesModifier · letter)
          if !fits || (colons ≠ [] && letter ≠ 'z') then none
          else part? (time / 1000000) layout letter
      let shown := match known with
        | none => laidOut layout .raised ('%' :: rest.take (rest.length - after.length))
        | some (.number value digits blank) =>
          padded layout digits blank (signOf value) (toString value.natAbs).toList
        | some (.years value digits) => yearsText layout digits value
        | some (.text text casing) => laidOut layout casing text
        | some (.offset digits shown) => padded layout digits false ['+'] shown.toList
        | some .day =>
          let inner : Layout := match layout.padding, layout.width with
            | none, none => { padding := some '+', width := some 4 }
            | padding, width => { padding, width := some (width.getD 0 - 6) }
          filled layout (yearsText inner 4 (Calendar.Moment.ofSeconds (time / 1000000)).year ++
            formatIn time steps "-%m-%d".toList)
        | some (.pattern pattern) =>
          let inner := formatIn time steps pattern.toList
          filled layout (if layout.upper then upperCase inner else inner)
        | some .fraction => fractionText layout time
      shown ++ formatIn time steps after

def format (time : Int) (pattern : List Char) : List Char :=
  formatIn time (pattern.length + 20) pattern

end HouseStyle.Shell.DateFormat
