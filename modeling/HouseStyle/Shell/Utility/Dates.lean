import HouseStyle.Shell.DateFormat
import HouseStyle.Shell.DateText
import HouseStyle.Shell.Utility.Files

namespace HouseStyle.Shell.Exec

def machineFormats : List (String × String) :=
  [("hours", "%Y-%m-%dT%H%:z"), ("minutes", "%Y-%m-%dT%H:%M%:z"), ("date", "%Y-%m-%d"),
    ("seconds", "%Y-%m-%dT%H:%M:%S%:z"), ("ns", "%Y-%m-%dT%H:%M:%S,%N%:z")]

def logFormats : List (String × String) :=
  [("date", "%Y-%m-%d"), ("seconds", "%Y-%m-%d %H:%M:%S%:z"), ("ns", "%Y-%m-%d %H:%M:%S.%N%:z")]

def mailFormat : String := "%a, %d %b %Y %H:%M:%S %z"

def plainFormat : String := "%a %b %e %H:%M:%S %Z %Y"

def dateOptions : List (Char × List Char) → Option (List Char) →
    Exec (Except Nat (Option (List Char)))
  | [], format => pure (.ok format)
  | (letter, word) :: rest, format => do
    let use (found : Option String) : Exec (Except Nat (Option (List Char))) := do
      match found, format with
      | none, _ => pure (.error 1)
      | some _, some _ => do
        programError "multiple output formats specified".toList
        pure (.error 1)
      | some found, none => dateOptions rest (some found.toList)
    let choose (name : String) (formats : List (String × String)) :
        Exec (Except Nat (Option (List Char))) := do
      let choice ← choiceOf name (formats.map fun (name, _) => [name]) word
      use (choice.bind fun name => List.lookup name formats)
    match letter with
    | 'I' => if word = [] then use (some "%Y-%m-%d") else choose "--iso-8601" machineFormats
    | 'λ' => choose "--rfc-3339" logFormats
    | 'R' => use (some mailFormat)
    | _ => dateOptions rest format

def putDate (format : List Char) (time : Int) : Exec Bool := do
  put (DateFormat.format time format ++ ['\n'])
  pure true

def putDateOf (format words : List Char) : Exec Bool := do
  match DateText.ofWords? (← get).now words with
  | some time => putDate format time
  | none => do
    programError ("invalid date ".toList ++ quoted words)
    pure false

def refuseClock (format : List Char) (time? : Option Int) (words : List Char) : Exec Bool := do
  match time? with
  | none => do
    programError ("invalid date ".toList ++ quoted words)
    pure false
  | some time => do
    programError "cannot set date: Operation not permitted".toList
    let _ ← putDate format time
    pure false

def date (words : List (List Char)) : Exec Nat :=
  let forms := OptionForm.namedValued [('d', "date"), ('f', "file"), ('λ', "rfc-3339"),
      ('r', "reference"), ('s', "set")] ++
    OptionForm.named [('R', "rfc-email"), ('R', "rfc-822"), ('R', "rfc-2822"), ('u', "utc"),
      ('u', "uct"), ('u', "universal")] ++
    [{ letter := 'I', name := "iso-8601", demand := .optional }]
  withOptions 1 .mixed forms words (dateOptions · none) fun format arguments => do
    let sources := ['d', 'f', 'r'].filter arguments.has
    let isSetting := arguments.has 's'
    let finish (run : Exec Bool) : Exec Nat := do
      pure (if (← run) then 0 else 1)
    let tell (format : List Char) : Exec Nat := do
      match arguments.value? 'd', arguments.value? 'f', arguments.value? 'r' with
      | some words, _, _ => finish (putDateOf format words)
      | none, some path, _ => do
        match (← readPath path) with
        | .error reason => do
          pathError path reason
          pure 1
        | .ok text => do
          let results ← (linesOf text).mapM (putDateOf format)
          pure (if results.all fun isFine => isFine then 0 else 1)
      | none, none, some path => do
        match (← entryAt true path) with
        | .ok (place, _) => do finish (putDate format (← timeAt place))
        | .error error => do
          pathError path error.reason
          pure 1
      | none, none, none =>
        match arguments.value? 's' with
        | some words => do
          finish (refuseClock format (DateText.ofWords? (← get).now words) words)
        | none => do finish (putDate format (← get).now)
    if 1 < sources.length then
      misuse "the options to specify dates for printing are mutually exclusive".toList
    else if isSetting && sources ≠ [] then
      misuse "the options to print and set the time may not be used together".toList
    else match arguments.operands with
      | _ :: extra :: _ => misuse ("extra operand ".toList ++ quoted extra)
      | [] => tell (format.getD plainFormat.toList)
      | ['+' :: wanted] =>
        if format.isSome then do
          programError "multiple output formats specified".toList
          pure 1
        else tell wanted
      | [word] =>
        if isSetting || sources ≠ [] then
          misuse ("the argument ".toList ++ quoted word ++ (" lacks a leading '+';\n" ++
            "when using an option to specify date(s), any non-option\n" ++
            "argument must be a format string beginning with '+'").toList)
        else do
          let time := DateText.clockStamp? ((← get).now / 1000000) word
          finish (refuseClock (format.getD plainFormat.toList) (time.map (· * 1000000)) word)

end HouseStyle.Shell.Exec
