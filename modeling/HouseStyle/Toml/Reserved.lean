import HouseStyle.Toml.Scalar

namespace HouseStyle.Toml

def datetimeKey : String := "$__toml_private_datetime"

def Datetime.ofText? (text : String) : Option Datetime :=
  datetime.all text.toList

namespace Value

mutual

def resolve? : Value → Option Value
  | .array items => (resolveItems? items).map .array
  | .table entries =>
    if entries.head?.any (·.1 = datetimeKey) then
      match entries with
      | [(_, .string text)] => (Datetime.ofText? text).map .datetime
      | _ => none
    else (resolveEntries? entries).map .table
  | value => some value

def resolveItems? : List Value → Option (List Value)
  | [] => some []
  | item :: rest => do pure ((← resolve? item) :: (← resolveItems? rest))

def resolveEntries? : List (String × Value) → Option (List (String × Value))
  | [] => some []
  | (key, value) :: rest => do pure ((key, ← resolve? value) :: (← resolveEntries? rest))

end

end Value

end HouseStyle.Toml
