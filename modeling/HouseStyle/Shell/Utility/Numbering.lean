import HouseStyle.Shell.Regex.Plan
import HouseStyle.Shell.Regex.Spelling
import HouseStyle.Shell.Utility.Basic

namespace HouseStyle.Shell

inductive Numbered where
  | all
  | filled
  | nothing
  | fitting (plan : Regex.Plan)

inductive NumberLayout where
  | left
  | right
  | zeros
  deriving DecidableEq, Repr

structure Numbering where
  header : Numbered := .nothing
  body : Numbered := .filled
  footer : Numbered := .nothing
  mark : List Char := ['\\', ':']
  start : Int := 1
  step : Int := 1
  emptyLines : Nat := 1
  layout : NumberLayout := .right
  goesOn : Bool := false
  separator : List Char := ['\t']
  width : Nat := 6

structure NumberingState where
  numbered : Numbered
  number : Int
  empties : Nat := 0

namespace Numbering

def numberText (numbering : Numbering) (number : Int) : List Char :=
  let digits := Exec.decimal number.natAbs
  let sign := if number < 0 then ['-'] else []
  let padding := numbering.width - digits.length - sign.length
  match numbering.layout with
  | .left => sign ++ digits ++ List.replicate padding ' '
  | .right => List.replicate padding ' ' ++ sign ++ digits
  | .zeros => sign ++ List.replicate padding '0' ++ digits

def partAt? (numbering : Numbering) (line : List Char) : Option Numbered :=
  let mark := numbering.mark
  if mark.length < 2 || line.length < 2 then none
  else if line = mark ++ mark ++ mark then some numbering.header
  else if line = mark ++ mark then some numbering.body
  else if line = mark then some numbering.footer
  else none

def line (numbering : Numbering) (state : NumberingState) (line : List Char) :
    List Char × NumberingState :=
  match numbering.partAt? line with
  | some numbered =>
    let number := if numbering.goesOn then state.number else numbering.start
    (['\n'], { state with numbered, number })
  | none =>
    let (isNumbered, empties) : Bool × Nat := match state.numbered with
      | .all =>
        if line ≠ [] || numbering.emptyLines ≤ state.empties + 1 then (true, 0)
        else (false, state.empties + 1)
      | .filled => (line ≠ [], state.empties)
      | .nothing => (false, state.empties)
      | .fitting plan => (plan.isIn line, state.empties)
    if isNumbered then
      (numbering.numberText state.number ++ numbering.separator ++ line ++ ['\n'],
        { state with number := state.number + numbering.step, empties })
    else
      (List.replicate (numbering.width + numbering.separator.length) ' ' ++ line ++ ['\n'],
        { state with empties })

def lines (numbering : Numbering) (state : NumberingState) (lines : List (List Char)) :
    List Char × NumberingState :=
  let (shown, state) := lines.foldl (fun (shown, state) line =>
    let (text, state) := numbering.line state line
    (text :: shown, state)) (([] : List (List Char)), state)
  (shown.reverse.flatten, state)

end Numbering

namespace Exec

def numberFault (what : String) (word : List Char) (reason : String) : Exec Unit :=
  programError (what.toList ++ [':', ' '] ++ quoted word ++ reason.toList)

def boundedNumber (what : String) (low high : Int) (word : List Char) : Exec (Option Int) := do
  let start := word.dropWhile Arithmetic.isBlank
  let (isNegative, digits) : Bool × List Char := match start with
    | '-' :: digits => (true, digits)
    | '+' :: digits => (false, digits)
    | digits => (false, digits)
  if digits = [] || !digits.all Char.isDigit then do
    numberFault what word ""
    pure none
  else
    let size : Int := Text.digitsValue 10 digits
    let value := if isNegative then -size else size
    if value < low || high < value then do
      let isFar : Bool := 0x3fffffff < value || value < -0x3fffffff
      numberFault what word (if isFar then ": Value too large for defined data type"
        else ": Numerical result out of range")
      pure none
    else pure (some value)

def numberedOf (word : List Char) : Except (List Char) (Option Numbered) :=
  match word with
  | 'a' :: _ => .ok (some .all)
  | 't' :: _ => .ok (some .filled)
  | 'n' :: _ => .ok (some .nothing)
  | 'p' :: pattern =>
    match Regex.ofText { emptyRanges := true } pattern with
    | .ok regex => .ok (some (.fitting (regex.plan false false false)))
    | .error fault => .error fault.message.toList
  | _ => .ok none

def numberingOptions : List (Char × List Char) → Numbering → Bool →
    Exec (Except Nat (Numbering × Bool))
  | [], numbering, good => pure (.ok (numbering, good))
  | (letter, word) :: rest, numbering, good => do
    let bad (what : String) : Exec (Except Nat (Numbering × Bool)) := do
      programError (what.toList ++ [':', ' '] ++ quoted word)
      numberingOptions rest numbering false
    let part (name : String) (change : Numbered → Numbering) :
        Exec (Except Nat (Numbering × Bool)) := do
      match numberedOf word with
      | .ok (some numbered) => numberingOptions rest (change numbered) good
      | .ok none => bad ("invalid " ++ name ++ " numbering style")
      | .error message => do
        programError message
        pure (.error 1)
    let number (what : String) (low high : Int) (change : Int → Numbering) :
        Exec (Except Nat (Numbering × Bool)) := do
      match (← boundedNumber what low high word) with
      | some value => numberingOptions rest (change value) good
      | none => pure (.error 1)
    let most : Int := 0x7fffffffffffffff
    match letter with
    | 'h' => part "header" fun numbered => { numbering with header := numbered }
    | 'b' => part "body" fun numbered => { numbering with body := numbered }
    | 'f' => part "footer" fun numbered => { numbering with footer := numbered }
    | 'v' => number "invalid starting line number" (-most - 1) most fun start =>
      { numbering with start }
    | 'i' => number "invalid line number increment" (-most - 1) most fun step =>
      { numbering with step }
    | 'l' => number "invalid line number of blank lines" 1 most fun count =>
      { numbering with emptyLines := count.toNat }
    | 'w' => number "invalid line number field width" 1 0x7fffffff fun width =>
      { numbering with width := width.toNat }
    | 'n' =>
      match String.ofList word with
      | "ln" => numberingOptions rest { numbering with layout := .left } good
      | "rn" => numberingOptions rest { numbering with layout := .right } good
      | "rz" => numberingOptions rest { numbering with layout := .zeros } good
      | _ => bad "invalid line numbering format"
    | 's' => numberingOptions rest { numbering with separator := word } good
    | 'p' => numberingOptions rest { numbering with goesOn := true } good
    | 'd' =>
      let mark := match word with
        | [c] => [c, ':']
        | word => word
      numberingOptions rest { numbering with mark } good
    | _ => numberingOptions rest numbering good

def nl (words : List (List Char)) : Exec Nat :=
  let forms := OptionForm.namedValued [('h', "header-numbering"), ('b', "body-numbering"),
      ('f', "footer-numbering"), ('v', "starting-line-number"), ('i', "line-increment"),
      ('l', "join-blank-lines"), ('s', "number-separator"), ('w', "number-width"),
      ('n', "number-format"), ('d', "section-delimiter")] ++
    OptionForm.named [('p', "no-renumber")]
  withOptions 1 .mixed forms words (numberingOptions · {} true) fun (numbering, good) arguments => do
    if !good then do
      hint
      pure 1
    else
      let paths := if arguments.operands = [] then [['-']] else arguments.operands
      let start : NumberingState := { numbered := numbering.body, number := numbering.start }
      let (_, isDone) ← paths.foldlM (fun (state, isDone) path => do
        match (← readPath path) with
        | .error reason => do
          pathError path reason
          pure (state, false)
        | .ok content => do
          let (text, state) := numbering.lines state (linesOf content)
          put text
          pure (state, isDone)) (start, true)
      pure (if isDone then 0 else 1)

end Exec

end HouseStyle.Shell
