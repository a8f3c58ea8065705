import HouseStyle.Shell.Awk.Value
import HouseStyle.Shell.Regex.Plan

namespace HouseStyle.Shell.Awk

inductive Builtin where
  | length
  | substr
  | index
  | split
  | sub
  | gsub
  | matching
  | sprintf
  | sin
  | cos
  | atan2
  | exp
  | log
  | sqrt
  | int
  | rand
  | srand
  | tolower
  | toupper
  | system
  | close
  | fflush
  | systime
  | strftime
  | mktime
  deriving DecidableEq, Repr

namespace Builtin

def names : List (String × Builtin) :=
  [("length", length), ("substr", substr), ("index", index), ("split", split), ("sub", sub),
    ("gsub", gsub), ("match", matching), ("sprintf", sprintf), ("sin", sin), ("cos", cos),
    ("atan2", atan2), ("exp", exp), ("log", log), ("sqrt", sqrt), ("int", int), ("rand", rand),
    ("srand", srand), ("tolower", tolower), ("toupper", toupper), ("system", system),
    ("close", close), ("fflush", fflush), ("systime", systime), ("strftime", strftime),
    ("mktime", mktime)]

def arity : Builtin → Nat × Nat
  | length => (0, 1)
  | substr => (2, 3)
  | index | atan2 | matching => (2, 2)
  | split | sub | gsub => (2, 3)
  | sprintf => (1, 255)
  | rand | systime => (0, 0)
  | srand | fflush => (0, 1)
  | strftime => (0, 3)
  | _ => (1, 1)

end Builtin

inductive Calculation where
  | add
  | subtract
  | multiply
  | divide
  | modulo
  | power
  deriving DecidableEq, Repr

inductive Relation where
  | equal
  | different
  | less
  | atMost
  | greater
  | atLeast
  deriving DecidableEq, Repr

inductive Expr where
  | number (value : Float)
  | text (text : List Char)
  | regex (source : List Char)
  | name (name : String)
  | element (table : String) (keys : List Expr)
  | field (index : Expr)
  | assign (target : Expr) (calculation : Option Calculation) (value : Expr)
  | step (target : Expr) (up before : Bool)
  | calculate (calculation : Calculation) (left right : Expr)
  | negative (value : Expr)
  | positive (value : Expr)
  | not (value : Expr)
  | compare (relation : Relation) (left right : Expr)
  | fits (negated : Bool) (text regex : Expr)
  | join (left right : Expr)
  | both (left right : Expr)
  | either (left right : Expr)
  | choice (condition yes no : Expr)
  | isIn (keys : List Expr) (table : String)
  | call (name : String) (arguments : List Expr)
  | builtin (builtin : Builtin) (arguments : List Expr)
  | takeLine (isCommand : Bool) (source target : Option Expr)
  | group (value : Expr)

inductive Outlet where
  | overwrite
  | append
  | command
  deriving DecidableEq, Repr

inductive Statement where
  | nothing
  | expr (value : Expr)
  | print (values : List Expr) (outlet : Option (Outlet × Expr))
  | format (values : List Expr) (outlet : Option (Outlet × Expr))
  | block (statements : List Statement)
  | choose (condition : Expr) (yes no : Statement)
  | repeatWhile (condition : Expr) (body : Statement)
  | doWhile (body : Statement) (condition : Expr)
  | loop (start : Statement) (condition : Option Expr) (step body : Statement)
  | each (target table : String) (body : Statement)
  | next
  | nextFile
  | exit (status : Option Expr)
  | giveBack (value : Option Expr)
  | leave
  | goOn
  | delete (table : String) (keys : List Expr)
  | clear (table : String)

inductive Pattern where
  | start
  | finish
  | always
  | when (condition : Expr)
  | range (number : Nat) (first last : Expr)

structure Rule where
  pattern : Pattern
  body : Option Statement

structure Function where
  name : String
  parameters : List String
  body : Statement := .nothing
  tables : List Bool := []

structure Program where
  rules : List Rule := []
  functions : List Function := []

end HouseStyle.Shell.Awk
