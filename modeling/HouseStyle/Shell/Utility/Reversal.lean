import HouseStyle.Shell.Regex.Plan
import HouseStyle.Shell.Regex.Spelling
import HouseStyle.Shell.Utility.Basic

namespace HouseStyle.Shell.Exec

/-- Cut a text at separators that are looked for from its end on. `found` tells how long the
separator is that starts a text, and `before` whether records start with separators. The text comes
with its last character first; `inside` is what is read of a record, and `ending` is the separator
that ends it. Gives the records, the last one first. -/
def cutBack (found : List Char → Option Nat) (before : Bool) :
    List Char → List Char → List Char → List (List Char) → List (List Char)
  | [], inside, ending, records => ((inside ++ ending) :: records).reverse
  | c :: rest, inside, ending, records =>
    let here := c :: inside
    match found here with
    | some (size + 1) =>
      if before then cutBack found before rest [] [] (here :: records)
      else
        let record := here.drop (size + 1) ++ ending
        cutBack found before rest [] (here.take (size + 1)) (record :: records)
    | _ => cutBack found before rest here ending records

def separatorAt (separator : List Char) (text : List Char) : Option Nat :=
  if separator.isPrefixOf text then some separator.length else none

def recordsBack (found : List Char → Option Nat) (before : Bool) (text : List Char) : List Char :=
  (cutBack found before text.reverse [] [] []).flatten

def tac (words : List (List Char)) : Exec Nat :=
  let forms := OptionForm.named [('b', "before"), ('r', "regex")] ++
    OptionForm.namedValued [('s', "separator")]
  withArguments 1 forms words fun arguments => do
    let separator := (arguments.value? 's').getD ['\n']
    let found : Except String (List Char → Option Nat) :=
      if arguments.has 'r' then
        if separator = [] then .error "separator cannot be empty"
        else match Regex.ofText { emptyRanges := true } separator with
          | .error fault => .error fault.message
          | .ok regex =>
            let plan := regex.plan false true false
            .ok fun text => (plan.at? false (fun _ => true) [] text).map (·.text.length)
      else .ok (separatorAt (if separator = [] then ['\x00'] else separator))
    match found with
    | .error message => do
      programError message.toList
      pure 1
    | .ok found => do
      let paths := if arguments.operands = [] then [['-']] else arguments.operands
      let results ← paths.mapM fun path => do
        match (← locate path), (← readPath path) with
        | .error error, .error _ => do
          programError ("failed to open ".toList ++ shown path ++ " for reading: ".toList ++
            error.reason.toList)
          pure false
        | _, .error reason => do
          let reason := if reason = "Is a directory" then "Invalid argument" else reason
          programError (Quotation.ifNeeded path ++ ": read error: ".toList ++ reason.toList)
          pure false
        | _, .ok content => do
          put (recordsBack found (arguments.has 'b') content)
          pure true
      pure (if results.all id then 0 else 1)

def rev (words : List (List Char)) : Exec Nat :=
  withArguments 1 (OptionForm.named [('0', "zero")]) words fun arguments => do
    let mark := if arguments.has '0' then '\x00' else '\n'
    let reversed (content : List Char) : List Char :=
      (recordsWithEnds mark content).flatMap fun record =>
        if record.getLast? = some mark then record.dropLast.reverse ++ [mark] else record.reverse
    if arguments.operands = [] then do
      put (reversed (← readAll 0))
      pure 0
    else do
      let results ← arguments.operands.mapM fun path => do
        let content ← if path = ['-'] then pure (.error FileError.notFound.reason)
          else readPath path
        match content with
        | .error reason => do
          programError ("cannot open ".toList ++ path ++ [':', ' '] ++ reason.toList)
          pure false
        | .ok content => do
          put (reversed content)
          pure true
      pure (if results.all id then 0 else 1)

end HouseStyle.Shell.Exec
