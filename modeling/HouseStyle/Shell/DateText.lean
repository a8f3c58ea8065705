import HouseStyle.Shell.Arithmetic
import HouseStyle.Shell.Calendar

namespace HouseStyle.Shell.DateText

open Calendar

/-! ## Stamps -/

/-- The moment of a stamp: month, day, hour and minute in two digits each, perhaps with a year in two
or four digits in front and seconds behind a point. -/
def stamp? (now : Int) (text : List Char) : Option Int := do
  let digits := text.takeWhile Char.isDigit
  let rest := text.drop digits.length
  let number (from_ count : Nat) : Nat := Text.digitsValue 10 ((digits.drop from_).take count)
  let (year, from_) : Int × Nat ← match digits.length with
    | 8 => some ((Moment.ofSeconds now).year, 0)
    | 10 =>
      let short := number 0 2
      some (if short < 69 then 2000 + short else 1900 + short, 2)
    | 12 => some (number 0 4, 4)
    | _ => none
  let second ← match rest with
    | [] => some 0
    | ['.', a, b] => if a.isDigit && b.isDigit then some (Text.digitsValue 10 [a, b]) else none
    | _ => none
  let moment : Moment :=
    { year, month := number from_ 2, day := number (from_ + 2) 2, hour := number (from_ + 4) 2
      minute := number (from_ + 6) 2, second }
  if moment.isValid then some moment.seconds else none

def clockStamp? (now : Int) (text : List Char) : Option Int :=
  let digits := text.takeWhile Char.isDigit
  stamp? now (digits.drop 8 ++ digits.take 8 ++ text.drop digits.length)

/-! ## Words -/

inductive Token where
  /-- A number with its sign, if it has one, the count of its digits, and a fraction in
  millionths. -/
  | number (sign : Option Bool) (value digits : Nat) (fraction : Option Nat)
  | month (number : Nat)
  | weekday (number : Nat)
  | zone (ahead : Int)
  | summerTime
  | afternoon (holds : Bool)
  | unit (name : String)
  | ordinal (count : Int)
  | dayAway (count : Int)
  | hence (forward : Bool)
  | between
  | sign (c : Char)
  | unknown
  deriving DecidableEq, Repr

def monthNames : List String :=
  ["january", "february", "march", "april", "may", "june", "july", "august", "september",
    "october", "november", "december"]

def weekdayNames : List String :=
  ["sunday", "monday", "tuesday", "wednesday", "thursday", "friday", "saturday"]

def nameIndex? (names : List String) (name : String) : Option Nat :=
  let index := names.findIdx fun full => full = name || full.toList.take 3 = name.toList
  if index < names.length then some index else none

def zones : List (String × Int) :=
  [("gmt", 0), ("ut", 0), ("utc", 0), ("wet", 0), ("west", 2), ("bst", 2), ("art", -6),
    ("brt", -6), ("brst", -4), ("nst", -7), ("ndt", -5), ("ast", -8), ("adt", -6), ("clt", -8),
    ("clst", -6), ("est", -10), ("edt", -8), ("cst", -12), ("cdt", -10), ("mst", -14),
    ("mdt", -12), ("pst", -16), ("pdt", -14), ("akst", -18), ("akdt", -16), ("hst", -20),
    ("hast", -20), ("hadt", -18), ("sst", -24), ("wat", 2), ("cet", 2), ("cest", 4), ("met", 2),
    ("mez", 2), ("mest", 4), ("mesz", 4), ("eet", 4), ("eest", 6), ("cat", 4), ("sast", 4),
    ("eat", 6), ("msk", 6), ("msd", 8), ("ist", 11), ("sgt", 16), ("kst", 18), ("jst", 18),
    ("gst", 20), ("nzst", 24), ("nzdt", 26)]

def letterZone? (letter : Char) : Option Int :=
  let east := "abcdefghiklm".toList.findIdx (· = letter)
  let west := "nopqrstuvwxy".toList.findIdx (· = letter)
  if letter = 'z' then some 0
  else if east < 12 then some (east + 1)
  else if west < 12 then some (-(west + 1 : Int))
  else none

def units : List String :=
  ["year", "month", "fortnight", "week", "day", "hour", "minute", "min", "second", "sec"]

def ordinals : List (String × Int) :=
  [("last", -1), ("this", 0), ("next", 1), ("first", 1), ("third", 3), ("fourth", 4), ("fifth", 5),
    ("sixth", 6), ("seventh", 7), ("eighth", 8), ("ninth", 9), ("tenth", 10), ("eleventh", 11),
    ("twelfth", 12)]

def ofWord (letters : List Char) : Token :=
  let word := String.ofList letters
  let name := String.ofList (if letters.getLast? = some '.' then letters.dropLast else letters)
  let plain := String.ofList (letters.filter (· ≠ '.'))
  let single := if letters.getLast? = some 's' then String.ofList letters.dropLast else word
  let others : List (String × Token) :=
    [("am", .afternoon false), ("a.m.", .afternoon false), ("pm", .afternoon true),
      ("p.m.", .afternoon true), ("sept", .month 9), ("tues", .weekday 2), ("wednes", .weekday 3),
      ("thur", .weekday 4), ("thurs", .weekday 4), ("dst", .summerTime), ("tomorrow", .dayAway 1),
      ("yesterday", .dayAway (-1)), ("today", .dayAway 0), ("now", .dayAway 0),
      ("ago", .hence false), ("hence", .hence true), ("t", .between)]
  let guesses : List (Option Token) :=
    [others.lookup word,
      (nameIndex? monthNames name).map fun index => .month (index + 1),
      (nameIndex? weekdayNames name).map .weekday,
      (zones.lookup word).map fun halves => .zone (halves * 1800),
      if units.contains word then some (.unit word) else none,
      if units.contains single then some (.unit single) else none,
      (ordinals.lookup word).map .ordinal,
      match letters with
        | [letter] => (letterZone? letter).map fun hours => .zone (hours * 3600)
        | _ => none,
      (zones.lookup plain).map fun halves => .zone (halves * 1800)]
  (guesses.findSome? fun guess => guess).getD .unknown

def skipRemark : Nat → List Char → List Char
  | _, [] => []
  | depth, c :: rest =>
    if c = '(' then skipRemark (depth + 1) rest
    else if c = ')' then if depth ≤ 1 then rest else skipRemark (depth - 1) rest
    else skipRemark depth rest

def numberAt (sign : Option Bool) (text : List Char) : Token × List Char :=
  let digits := text.takeWhile Char.isDigit
  let behind := text.drop digits.length
  let value := Text.digitsValue 10 digits
  let places := (behind.drop 1).takeWhile Char.isDigit
  if (behind.head? = some '.' || behind.head? = some ',') && places ≠ [] then
    let millionths := Text.digitsValue 10 ((places ++ List.replicate 6 '0').take 6)
    (.number sign value digits.length (some millionths), behind.drop (places.length + 1))
  else (.number sign value digits.length none, behind)

def tokens : Nat → List Char → List Token
  | 0, _ | _ + 1, [] => []
  | steps + 1, text@(c :: rest) =>
    if Arithmetic.isBlank c then tokens steps rest
    else if c.isDigit then
      let (token, rest) := numberAt none text
      token :: tokens steps rest
    else if c = '+' || c = '-' then
      let behind := rest.dropWhile Arithmetic.isBlank
      if behind.head?.any Char.isDigit then
        let (token, rest) := numberAt (some (c = '-')) behind
        token :: tokens steps rest
      else tokens steps behind
    else if c.isAlpha then
      let letters := text.takeWhile fun c => c.isAlpha || c = '.'
      ofWord (letters.map Char.toLower) :: tokens steps (text.drop letters.length)
    else if c = '(' then tokens steps (skipRemark 0 text)
    else .sign c :: tokens steps rest

/-! ## What is said -/

structure Said where
  dates : Nat := 0
  times : Nat := 0
  weekdays : Nat := 0
  zones : Nat := 0
  isRelative : Bool := false
  year : Option (Int × Nat) := none
  month : Int := 1
  day : Int := 1
  hour : Nat := 0
  minute : Nat := 0
  second : Nat := 0
  fraction : Nat := 0
  afternoon : Option Bool := none
  ahead : Int := 0
  weekday : Nat := 0
  weekdayCount : Int := 0
  addedMonths : Int := 0
  addedDays : Int := 0
  added : Int := 0

def Said.add (said : Said) (count : Int) (millionths : Int) (unit : String) : Said :=
  let said := { said with isRelative := true }
  match unit with
  | "year" => { said with addedMonths := said.addedMonths + 12 * count }
  | "month" => { said with addedMonths := said.addedMonths + count }
  | "fortnight" => { said with addedDays := said.addedDays + 14 * count }
  | "week" => { said with addedDays := said.addedDays + 7 * count }
  | "day" => { said with addedDays := said.addedDays + count }
  | "hour" => { said with added := said.added + 3600000000 * count }
  | "minute" | "min" => { said with added := said.added + 60000000 * count }
  | _ => { said with added := said.added + 1000000 * count + millionths }

def Said.onDate (said : Said) (year : Option (Int × Nat)) (month day : Int) : Said :=
  { said with dates := said.dates + 1, year := year.or said.year, month, day }

def Said.atTime (said : Said) (hour minute second fraction : Nat) (afternoon : Option Bool) : Said :=
  { said with times := said.times + 1, hour, minute, second, fraction, afternoon }

def zoneOffset? (negative : Bool) (value digits : Nat) (minutes : Option Nat) : Option Int :=
  let size : Nat := match minutes with
    | some minutes => value * 60 + minutes
    | none => if digits ≤ 2 then value * 60 else value / 100 * 60 + value % 100
  if 24 * 60 < size then none
  else some (if negative then -(size * 60 : Int) else size * 60)

def Said.withOffset (said : Said) (rest : List Token) : Option (Said × List Token) :=
  let use (found : Option Int) (rest : List Token) : Option (Said × List Token) :=
    found.map fun ahead => ({ said with zones := said.zones + 1, ahead }, rest)
  match rest with
  | .number (some negative) value digits none :: .sign ':' :: .number none minutes _ none :: rest =>
    use (zoneOffset? negative value digits (some minutes)) rest
  | .number (some negative) value digits none :: rest =>
    use (zoneOffset? negative value digits none) rest
  | rest => some (said, rest)

def Said.withTime (said : Said) (hour minute : Nat) (rest : List Token) :
    Option (Said × List Token) :=
  let (second, fraction, rest) : Nat × Nat × List Token := match rest with
    | .sign ':' :: .number none second _ fraction :: rest => (second, fraction.getD 0, rest)
    | rest => (0, 0, rest)
  match rest with
  | .afternoon half :: rest =>
    some (said.atTime hour minute second fraction (some half), rest)
  | rest => (said.atTime hour minute second fraction none).withOffset rest

def Said.withDistance (said : Said) (count : Int) (millionths : Int) (unit : String)
    (rest : List Token) : Said × List Token :=
  match rest with
  | .hence forward :: rest =>
    if forward then (said.add count millionths unit, rest)
    else (said.add (-count) (-millionths) unit, rest)
  | rest => (said.add count millionths unit, rest)

def Said.withNumber (said : Said) (value digits : Nat) : Said :=
  if 0 < said.dates && said.year.isNone && !said.isRelative && (0 < said.times || 2 < digits) then
    { said with year := some (value, digits) }
  else if 4 < digits then
    said.onDate (some (value / 10000, digits - 4)) (value / 100 % 100 : Nat) (value % 100 : Nat)
  else if digits ≤ 2 then said.atTime value 0 0 0 none
  else said.atTime (value / 100) (value % 100) 0 0 none

def signedValue (negative : Bool) (value : Nat) : Int :=
  if negative then -(value : Int) else value

def item (said : Said) (all : List Token) : Option (Said × List Token) :=
  match all with
  | .number none year digits none :: .number (some true) month _ none ::
      .number (some true) day _ none :: rest =>
    let dated := said.onDate (some (year, digits)) month day
    match rest with
    | .between :: .number none hour _ none :: .sign ':' :: .number none minute _ none :: rest =>
      dated.withTime hour minute rest
    | .between :: .number none hour _ none :: rest =>
      match rest with
      | .number (some _) _ _ none :: _ => (dated.atTime hour 0 0 0 none).withOffset rest
      | _ => none
    | rest => some (dated, rest)
  | .number none day _ none :: .month month :: .number (some true) year digits none :: rest =>
    some (said.onDate (some (year, digits)) month day, rest)
  | .month month :: .number (some true) day _ none :: .number (some true) year digits none :: rest =>
    some (said.onDate (some (year, digits)) month day, rest)
  | .number none first digits none :: .sign '/' :: .number none second _ none :: .sign '/' ::
      .number none third thirdDigits none :: rest =>
    if 4 ≤ digits then some (said.onDate (some (first, digits)) second third, rest)
    else some (said.onDate (some (third, thirdDigits)) first second, rest)
  | .number none month _ none :: .sign '/' :: .number none day _ none :: rest =>
    some (said.onDate none month day, rest)
  | .month month :: .number none day _ none :: .sign ',' :: .number none year digits none :: rest =>
    some (said.onDate (some (year, digits)) month day, rest)
  | .month month :: .number none day _ none :: rest => some (said.onDate none month day, rest)
  | .number none day _ none :: .month month :: .number none year digits none :: rest =>
    some (said.onDate (some (year, digits)) month day, rest)
  | .number none day _ none :: .month month :: rest => some (said.onDate none month day, rest)
  | .number none hour _ none :: .afternoon half :: rest =>
    some (said.atTime hour 0 0 0 (some half), rest)
  | .number none hour _ none :: .sign ':' :: .number none minute _ none :: rest =>
    said.withTime hour minute rest
  | .number none count _ none :: .weekday weekday :: rest =>
    some ({ said with weekdays := said.weekdays + 1, weekday, weekdayCount := count }, rest)
  | .ordinal count :: .weekday weekday :: rest =>
    some ({ said with weekdays := said.weekdays + 1, weekday, weekdayCount := count }, rest)
  | .weekday weekday :: .sign ',' :: rest | .weekday weekday :: rest =>
    some ({ said with weekdays := said.weekdays + 1, weekday, weekdayCount := 0 }, rest)
  | .zone ahead :: .summerTime :: rest =>
    some ({ said with zones := said.zones + 1, ahead := ahead + 3600 }, rest)
  | .zone _ :: .number (some negative) count _ none :: .unit unit :: rest =>
    some ({ said with zones := said.zones + 1 }.withDistance (signedValue negative count) 0 unit
      rest)
  | .zone ahead :: .number (some negative) value digits none :: rest => do
    let (after, rest) ← said.withOffset (.number (some negative) value digits none :: rest)
    pure ({ after with ahead := after.ahead + ahead }, rest)
  | .zone ahead :: rest => some ({ said with zones := said.zones + 1, ahead }, rest)
  | .between :: rest => some ({ said with zones := said.zones + 1, ahead := -25200 }, rest)
  | .number sign count _ none :: .unit unit :: rest =>
    some (said.withDistance (signedValue (sign.getD false) count) 0 unit rest)
  | .number sign count _ (some millionths) :: .unit unit :: rest =>
    if unit = "second" || unit = "sec" then
      let negative := sign.getD false
      some (said.withDistance (signedValue negative count) (signedValue negative millionths) unit
        rest)
    else none
  | .ordinal count :: .unit unit :: rest => some (said.withDistance count 0 unit rest)
  | .unit unit :: rest => some (said.withDistance 1 0 unit rest)
  | .dayAway count :: rest => some (said.add count 0 "day", rest)
  | .number none value digits none :: rest => some (said.withNumber value digits, rest)
  | _ => none

def items : Nat → Said → List Token → Option Said
  | _, said, [] => some said
  | 0, _, _ => none
  | steps + 1, said, tokens => do
    let (said, rest) ← item said tokens
    items steps said rest

def hourOf? (hour : Nat) : Option Bool → Option Nat
  | none => if hour < 24 then some hour else none
  | some half =>
    if hour = 0 || 12 < hour then none else some (hour % 12 + (if half then 12 else 0))

def yearOf (year : Int) (digits : Nat) : Int :=
  if digits = 2 then (if year < 69 then 2000 + year else 1900 + year) else year

/-- The moment that is meant, in millionths of a second. Without a time of day it is the start of the
day, unless only a distance from now is given. -/
def Said.moment? (now : Int) (said : Said) : Option Int := do
  let current := Moment.ofSeconds (now / 1000000)
  if 1 < said.dates || 1 < said.times || 1 < said.weekdays || 1 < said.zones then none
  let isDated := 0 < said.dates
  let year := match said.year with
    | some (year, digits) => yearOf year digits
    | none => current.year
  let (month, day) : Int × Int := if isDated then (said.month, said.day)
    else (current.month, current.day)
  let isNow := said.times = 0 && said.isRelative && !isDated && said.weekdays = 0
  let hour ← if isNow then some current.hour
    else if 0 < said.times then hourOf? said.hour said.afternoon else some 0
  let (minute, second, fraction) := if isNow then (current.minute, current.second, now % 1000000)
    else (said.minute, said.second, (said.fraction : Int))
  let moment : Moment := { year, month := month.toNat, day := day.toNat, hour, minute, second }
  if !moment.isValid || 59 < second then none
  let start := moment.seconds
  let ahead : Int := ((said.weekday + 7 - Calendar.weekday start) % 7 : Nat)
  let start := if 0 < said.weekdays && !isDated then
      let passed : Int := if 0 < said.weekdayCount && ahead ≠ 0 then 1 else 0
      start + ((said.weekdayCount - passed) * 7 + ahead) * 86400
    else start
  let shifted := Moment.ofSeconds start
  let index := shifted.year * 12 + (shifted.month : Int) - 1 + said.addedMonths
  let days := daysBefore (index / 12) ((index % 12).toNat + 1) 1 + (shifted.day : Int) - 1 +
    said.addedDays
  let seconds := days * 86400 + start % 86400 - said.ahead
  pure (seconds * 1000000 + fraction + said.added)

def lastSecond : Int := 0x7FFFFFFFFFFFFFFF

def ofSeconds? (text : List Char) : Option Int :=
  let (negative, digits) := Arithmetic.signOf (text.dropWhile Arithmetic.isBlank)
  if !digits.head?.any Char.isDigit then none
  else match numberAt none digits with
    | (.number _ value _ fraction, rest) =>
      if rest.all Arithmetic.isBlank && (value : Int) ≤ lastSecond then
        let size : Int := value * 1000000 + fraction.getD 0
        some (if negative then -size else size)
      else none
    | _ => none

def ofWords? (now : Int) (text : List Char) : Option Int :=
  match text.dropWhile Arithmetic.isBlank with
  | '@' :: rest => ofSeconds? rest
  | text => do
    let found := tokens (text.length + 1) text
    let said ← items (found.length + 1) {} found
    said.moment? now

end HouseStyle.Shell.DateText
