namespace HouseStyle.Toml

structure Date where
  year : Nat
  month : Nat
  day : Nat
  deriving DecidableEq, Repr

structure Time where
  hour : Nat
  minute : Nat
  second : Nat
  nanosecond : Nat
  deriving DecidableEq, Repr

inductive Offset where
  | universal
  | minutes (count : Int)
  deriving DecidableEq, Repr

inductive Datetime where
  | date (date : Date)
  | time (time : Time)
  | moment (date : Date) (time : Time) (offset : Option Offset)
  deriving DecidableEq, Repr

inductive Value where
  | string (text : String)
  | integer (number : Int)
  | float (bits : Nat)
  | boolean (flag : Bool)
  | datetime (moment : Datetime)
  | array (items : List Value)
  | table (entries : List (String × Value))
  deriving Repr

/-! ## The text of dates and times -/

def padded (width number : Nat) : String :=
  let digits := toString number
  "".pushn '0' (width - digits.length) ++ digits

def Date.text (date : Date) : String :=
  padded 4 date.year ++ "-" ++ padded 2 date.month ++ "-" ++ padded 2 date.day

def Time.text (time : Time) : String :=
  let fraction :=
    if time.nanosecond = 0 then ""
    else
      let digits := (padded 9 time.nanosecond).toList
      "." ++ String.ofList (digits.reverse.dropWhile (· = '0')).reverse
  padded 2 time.hour ++ ":" ++ padded 2 time.minute ++ ":" ++ padded 2 time.second ++ fraction

def Offset.text : Offset → String
  | .universal => "Z"
  | .minutes count =>
    let total := count.natAbs
    (if count < 0 then "-" else "+") ++ padded 2 (total / 60) ++ ":" ++ padded 2 (total % 60)

def Datetime.text : Datetime → String
  | .date day => day.text
  | .time clock => clock.text
  | .moment day clock offset => day.text ++ "T" ++ clock.text ++ (offset.map Offset.text).getD ""

end HouseStyle.Toml
