import HouseStyle.Shell.Awk.Value
import Std.Data.HashMap

namespace HouseStyle.Shell.Awk

inductive Key where
  | text (text : List Char)
  | whole (n : Int)

structure Table where
  values : Std.HashMap String Value := {}
  rows : Nat := 64
  hasTexts : Bool := false
  texts : Std.HashMap Nat (List String) := {}
  numbers : Std.HashMap Nat (List Int) := {}

namespace Table

def keyNumber (name : String) : Nat :=
  name.foldl (fun sum c => (sum ^^^ (c.toNat % 256)) * 16777619 % 4294967296) 2166136261

def textRow (table : Table) (name : String) : Nat :=
  keyNumber name % table.rows

def numberRow (table : Table) (n : Int) : Nat :=
  (n % table.rows).toNat

def putText (table : Table) (name : String) : Table :=
  let row := table.textRow name
  let names := (table.texts.getD row []).filter (· ≠ name)
  { table with texts := table.texts.insert row (name :: names) }

def putNumber (table : Table) (n : Int) : Table :=
  let row := table.numberRow n
  let others := (table.numbers.getD row []).filter (· ≠ n)
  { table with numbers := table.numbers.insert row (n :: others) }

def withTexts (table : Table) : Table :=
  if table.hasTexts then table
  else
    let all := (List.range table.rows).flatMap fun row => table.numbers.getD row []
    all.foldl (fun table n => table.putText (toString n)) { table with hasTexts := true }

def rowLength : Nat := 12

def grown (table : Table) : Table :=
  if table.values.size ≤ table.rows * rowLength then table
  else
    let names := (List.range table.rows).flatMap fun row => (table.texts.getD row []).reverse
    let numbers := (List.range table.rows).flatMap fun row => (table.numbers.getD row []).reverse
    let larger : Table := { table with rows := 2 * table.rows, texts := {}, numbers := {} }
    numbers.foldl putNumber (names.foldl putText larger)

def keyName : Key → String
  | .text text => String.ofList text
  | .whole n => toString n

def has (table : Table) (key : Key) : Bool :=
  table.values.contains (keyName key)

def touch (table : Table) (key : Key) : Table :=
  match key with
  | .text text => table.withTexts.putText (String.ofList text)
  | .whole n =>
    let row := table.numbers.getD (table.numberRow n) []
    if row.head? = some n then table
    else if row.contains n || !table.hasTexts then table.putNumber n
    else (table.putText (toString n)).putNumber n

def put : Table → String → Value → Table
  | { values, rows, hasTexts, texts, numbers }, name, value =>
    { values := values.insert name value, rows, hasTexts, texts, numbers }

def value (table : Table) (key : Key) : Value :=
  table.values.getD (keyName key) .unset

def make (table : Table) (key : Key) : Table :=
  if table.has key then table.touch key
  else ((table.touch key).put (keyName key) .unset).grown

def set (table : Table) (key : Key) (value : Value) : Table :=
  let isNew := !table.has key
  let table := table.touch key
  let table := table.put (keyName key) value
  if isNew then table.grown else table

def erase (table : Table) (key : Key) : Table :=
  let name := keyName key
  if !table.has key then table
  else
    let values := table.values.erase name
    if values.isEmpty then {}
    else
      let row := table.textRow name
      let texts := table.texts.insert row ((table.texts.getD row []).filter (· ≠ name))
      let numbers := match name.toInt? with
        | some n =>
          let row := table.numberRow n
          table.numbers.insert row ((table.numbers.getD row []).filter (· ≠ n))
        | none => table.numbers
      { table with values, texts, numbers }

def names (table : Table) : List String :=
  (List.range table.rows).flatMap fun row => table.texts.getD row []

end Table

end HouseStyle.Shell.Awk
