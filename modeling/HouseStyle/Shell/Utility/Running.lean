import HouseStyle.Shell.Signal
import HouseStyle.Shell.Utility.Duration
import HouseStyle.Shell.Utility.Files

namespace HouseStyle.Shell.Exec

abbrev Launch := List (List Char) → Exec (Except FileError Ending)

def endAs (ending : Ending) : Exec Nat := do
  match ending.signal with
  | some signal => throw (.died signal)
  | none => pure ending.status

def launchStatus : FileError → Nat
  | .notFound => 127
  | _ => 126

def become (launch : Launch) (what : String) (words : List (List Char)) : Exec Nat := do
  match (← launch words) with
  | .ok ending => endAs ending
  | .error error => do
    let name := words.headD []
    programError (what.toList ++ shown name ++ [':', ' '] ++ error.reason.toList)
    pure (launchStatus error)

/-! ## Variables -/

def variableKey (name : List Char) : Nat :=
  name.foldl (fun total c => total + c.toNat) (((name.head?.map Char.toNat).getD 0) <<< 4) % 39

def environment : Exec (List (List Char × List Char)) := do
  let process ← process
  let seen := process.bindings.filterMap fun (name, found) =>
    if found.exported then found.value.map fun value => (name, value) else none
  pure (if process.inOrder then seen
    else seen.reverse.mergeSort fun left right => variableKey left.1 ≤ variableKey right.1)

def setEnvironment (exports : List (List Char × List Char)) : Exec Unit :=
  changeProcess fun process => { process with
    inOrder := true
    bindings := exports.map fun (name, value) => (name, { value := some value, exported := true }) }

def setIn (exports : List (List Char × List Char)) (name value : List Char) :
    List (List Char × List Char) :=
  if (exports.lookup name).isSome then
    exports.map fun (other, old) => (other, if other = name then value else old)
  else exports ++ [(name, value)]

/-- Cut a text into words as `env -S` does: at blanks, with quotes and escapes. `started` tells that
a word has begun. -/
def splitWords : Nat → Bool → List Char → List Char → List (List Char)
  | 0, _, _, _ => []
  | _ + 1, started, word, [] => if started then [word.reverse] else []
  | steps + 1, started, word, c :: rest =>
    if c = ' ' || c = '\t' || c = '\n' then
      (if started then [word.reverse] else []) ++ splitWords steps false [] rest
    else if c = '\'' then
      let inside := rest.takeWhile (· ≠ '\'')
      splitWords steps true (inside.reverse ++ word) (rest.drop (inside.length + 1))
    else if c = '"' then
      let inside := rest.takeWhile (· ≠ '"')
      splitWords steps true (inside.reverse ++ word) (rest.drop (inside.length + 1))
    else if c = '#' && !started then []
    else match c, rest with
      | '\\', '_' :: rest =>
        (if started then [word.reverse] else []) ++ splitWords steps false [] rest
      | '\\', next :: rest =>
        let meant := ([('n', '\n'), ('t', '\t'), ('r', '\r'), ('f', '\x0c'), ('v', '\x0b')].lookup
          next).getD next
        splitWords steps true (meant :: word) rest
      | c, rest => splitWords steps true (c :: word) rest

def env (launch : Launch) (words : List (List Char)) : Exec Nat := do
  let words := match words with
    | ('-' :: 'S' :: c :: text) :: rest => splitWords (text.length + 3) false [] (c :: text) ++ rest
    | ['-', 'S'] :: text :: rest => splitWords (text.length + 2) false [] text ++ rest
    | words => words
  let forms := OptionForm.named [('i', "ignore-environment"), ('0', "null"), ('v', "debug")] ++
    OptionForm.namedValued [('u', "unset"), ('C', "chdir"), ('S', "split-string")]
  let arguments := Arguments.parse .ordered forms words
  match arguments.fault with
  | some fault => do
    let _ ← misuse fault
    pure 125
  | none => do
    let isDash := arguments.operands.head? = some ['-']
    let operands := if isDash then arguments.operands.tail else arguments.operands
    let settings := operands.takeWhile (·.contains '=')
    let command := operands.drop settings.length
    let start ← if arguments.has 'i' || isDash then pure [] else environment
    let badNames := (arguments.options.filter (·.1 = 'u')).filter fun (_, name) =>
      name = [] || name.contains '='
    match badNames with
    | (_, name) :: _ => do
      programError ("cannot unset ".toList ++ quoted name ++ ": Invalid argument".toList)
      pure 125
    | [] => do
      let kept := start.filter fun (name, _) => !arguments.options.contains ('u', name)
      let exports := settings.foldl (fun exports setting =>
        let name := setting.takeWhile (· ≠ '=')
        setIn exports name (setting.drop (name.length + 1))) kept
      if command = [] && arguments.has 'C' then do
        let _ ← misuse "must specify command with --chdir (-C)".toList
        pure 125
      else if command ≠ [] && arguments.has '0' then do
        let _ ← misuse "cannot specify --null (-0) with command".toList
        pure 125
      else do
        let entered ← match arguments.value? 'C' with
          | none => pure true
          | some path => do
            match (← entryAt true path) with
            | .ok (place, .directory) => do
              changeProcess fun process => { process with here := place }
              pure true
            | .ok _ =>
              refusePath "cannot change directory to" path FileError.notDirectory.reason
            | .error error => refusePath "cannot change directory to" path error.reason
        if !entered then pure 125
        else if command = [] then do
          let lineEnd := if arguments.has '0' then '\x00' else '\n'
          put (exports.flatMap fun (name, value) => name ++ ['='] ++ value ++ [lineEnd])
          pure 0
        else do
          setEnvironment exports
          become launch "" command

def printenv (words : List (List Char)) : Exec Nat := do
  let forms := OptionForm.named [('0', "null")]
  withOptions 2 .ordered forms words (fun _ => pure (.ok ())) fun _ arguments => do
    let exports ← environment
    let lineEnd := if arguments.has '0' then '\x00' else '\n'
    match arguments.operands with
    | [] => do
      put (exports.flatMap fun (name, value) => name ++ ['='] ++ value ++ [lineEnd])
      pure 0
    | names => do
      let found := names.map fun name => if name.contains '=' then none else exports.lookup name
      put ((found.filterMap id).flatMap (· ++ [lineEnd]))
      pure (if found.all Option.isSome then 0 else 1)

/-! ## Priority -/

def nice (launch : Launch) (words : List (List Char)) : Exec Nat := do
  let forms := OptionForm.namedValued [('n', "adjustment")]
  let isDigits (word : List Char) : Bool := word ≠ [] && word.all Char.isDigit
  let words := match words with
    | ('-' :: '-' :: digits) :: rest =>
      if isDigits digits then "-n".toList :: ('-' :: digits) :: rest else words
    | ('-' :: digits) :: rest => if isDigits digits then "-n".toList :: digits :: rest else words
    | words => words
  let arguments := Arguments.parse .ordered forms words
  let old := (← process).niceness
  match arguments.fault with
  | some fault => do
    let _ ← misuse fault
    pure 125
  | none => do
    let given := arguments.value? 'n'
    let step? := match given with
      | none => some 10
      | some text =>
        Arithmetic.ofDecimal? (if text.head? = some '+' then text.tail else text)
    match step?, arguments.operands with
    | none, _ => do
      programError ("invalid adjustment ".toList ++ quoted (given.getD []))
      pure 125
    | some _, [] =>
      if given.isSome then do
        let _ ← misuse "a command must be given with an adjustment".toList
        pure 125
      else do
        put ((toString old).toList ++ ['\n'])
        pure 0
    | some step, command => do
      let new := if old + step < -20 then -20 else if 19 < old + step then 19 else old + step
      changeProcess fun process => { process with niceness := new }
      become launch "" command

def nohup (launch : Launch) (words : List (List Char)) : Exec Nat := do
  let arguments := Arguments.parse .ordered [] words
  match arguments.fault, arguments.operands with
  | some fault, _ => do
    let _ ← misuse fault
    pure 125
  | none, [] => do
    let _ ← missingOperand
    pure 125
  | none, command => become launch "failed to run command " command

/-! ## Limited time -/

def untilTime {α : Type} (time : Nat) (run : Exec α) : Exec (Option α) := do
  let before := (← get).limit
  let after := (← get).process
  if before.any (· ≤ time) then do pure (some (← run))
  else do
    modify fun machine => { machine with limit := some time }
    let result ← settled run
    modify fun machine => { machine with limit := before }
    match result with
    | .ok value => pure (some value)
    | .error .endless => do
      let machine ← get
      if machine.clock < time then throw .endless
      else do
        set { machine with clock := time, held := Nat.min machine.held time, process := after }
        pure none
    | .error halt => throw halt

def timeout (launch : Launch) (words : List (List Char)) : Exec Nat := do
  let forms := OptionForm.named [('ρ', "preserve-status"), ('φ', "foreground"), ('v', "verbose")] ++
    OptionForm.namedValued [('k', "kill-after"), ('s', "signal")]
  let arguments := Arguments.parse .ordered forms words
  let refuse (message : List Char) : Exec Nat := do
    let _ ← misuse message
    pure 125
  let signalText := (arguments.value? 's').getD "TERM".toList
  let plain := if "SIG".toList.isPrefixOf (signalText.map Char.toUpper) then signalText.drop 3
    else signalText
  match arguments.fault, Signal.find? 1 plain, arguments.operands with
  | some fault, _, _ => refuse fault
  | none, none, _ => refuse (quoted signalText ++ ": invalid signal".toList)
  | none, some _, [] | none, some _, [_] => do
    hint
    pure 125
  | none, some signal, limit :: command => do
    match (arguments.value? 'k').map duration?, duration? limit with
    | some none, _ =>
      refuse ("invalid time interval ".toList ++ quoted ((arguments.value? 'k').getD []))
    | _, none => refuse ("invalid time interval ".toList ++ quoted limit)
    | _, some duration => do
      let run := become launch "failed to run command " command
      match duration with
      | .infinite | .microseconds 0 => run
      | .microseconds count => do
        match (← untilTime ((← get).clock + count) run) with
        | some status => pure status
        | none => do
          if arguments.has 'v' then
            programError ("sending signal ".toList ++ Signal.name signal ++ " to command ".toList ++
              quoted (command.headD []))
          if signal = 9 && !arguments.has 'φ' then throw (.died 9)
          else pure (if arguments.has 'ρ' || signal = 9 then 128 + signal else 124)

/-! ## Arguments from the input -/

inductive Cutting where
  | words
  | lines
  | delimiter (mark : Char)
  deriving DecidableEq, Repr

structure Item where
  text : List Char
  line : Nat

structure ItemReader where
  items : List Item := []
  word : List Char := []
  started : Bool := false
  line : Nat := 0
  filled : Bool := false
  blank : Bool := false
  fault : Option String := none
  hasNul : Bool := false

namespace ItemReader

def finish (reader : ItemReader) : ItemReader :=
  if reader.started then { reader with
    items := { text := reader.word.reverse, line := reader.line } :: reader.items
    word := []
    started := false }
  else reader

def add (reader : ItemReader) (c : Char) : ItemReader :=
  { reader with word := c :: reader.word, started := true, filled := true, blank := false }

def quoteFault (quote : Char) : String :=
  (if quote = '"' then "unmatched double quote" else "unmatched single quote") ++
    "; by default quotes are special to xargs unless you use the -0 option"

def read (inLines : Bool) : Nat → Option Char → ItemReader → List Char → ItemReader
  | 0, _, reader, _ => reader.finish
  | _ + 1, some quote, reader, [] =>
    { reader with fault := some (quoteFault quote), started := false }
  | _ + 1, none, reader, [] => reader.finish
  | steps + 1, some quote, reader, c :: rest =>
    if c = quote then read inLines steps none { reader with started := true, blank := false } rest
    else if c = '\n' then { reader with fault := some (quoteFault quote), started := false }
    else read inLines steps (some quote) (reader.add c) rest
  | steps + 1, none, reader, c :: rest =>
    if c = '\\' then
      match rest with
      | next :: rest => read inLines steps none (reader.add next) rest
      | [] => reader.finish
    else if c = '\'' || c = '"' then
      read inLines steps (some c) { reader with started := true, filled := true, blank := false } rest
    else if c = '\n' then
      let ended := reader.finish
      let next := if ended.filled && (inLines || !ended.blank) then ended.line + 1 else ended.line
      read inLines steps none { ended with line := next, filled := false, blank := false } rest
    else if c = ' ' || c = '\t' then
      if inLines then
        if reader.started then read inLines steps none (reader.add c) rest
        else read inLines steps none reader rest
      else read inLines steps none { reader.finish with blank := true } rest
    else if c = '\x00' then
      let cut := { reader.finish with hasNul := true }
      let rest := rest.dropWhile fun c => c ≠ '\n' && c ≠ ' ' && c ≠ '\t'
      read inLines steps none cut rest
    else read inLines steps none (reader.add c) rest

def ofText (cutting : Cutting) (text : List Char) : ItemReader :=
  match cutting with
  | .words => read false (text.length + 1) none {} text
  | .lines => read true (text.length + 1) none {} text
  | .delimiter mark =>
    let items := recordsOf mark text
    { items := (items.zipIdx.map fun (text, line) => { text, line }).reverse }

end ItemReader

structure Batches where
  command : List (List Char)
  mark : Option (List Char) := none
  mostItems : Option Nat := none
  mostLines : Option Nat := none
  mostChars : Nat := 131072
  traced : Bool := false

def wordsSize (words : List (List Char)) : Nat :=
  words.foldl (fun total word => total + word.length + 1) 0

def batchesOf (batches : Batches) :
    List Item → List (List Char) → Nat → Nat → Nat → Except Unit (List (List (List Char)))
  | [], batch, _, _, _ => .ok (if batch = [] then [] else [batch.reverse])
  | item :: rest, batch, count, size, start =>
    let base := wordsSize batches.command
    let isFull := batches.mostItems.any (· ≤ count) ||
      batches.mostLines.any (start + · ≤ item.line) ||
      batches.mostChars < size + item.text.length + 1
    if batches.mostChars < base + item.text.length + 1 then .error ()
    else if batch ≠ [] && isFull then
      (batchesOf batches rest [item.text] 1 (base + item.text.length + 1) item.line).map
        (batch.reverse :: ·)
    else if batch = [] then
      batchesOf batches rest [item.text] 1 (base + item.text.length + 1) item.line
    else batchesOf batches rest (item.text :: batch) (count + 1) (size + item.text.length + 1) start

def replaceMark (mark item : List Char) : Nat → List Char → List Char
  | 0, word => word
  | _ + 1, [] => []
  | steps + 1, c :: rest =>
    if mark ≠ [] && mark.isPrefixOf (c :: rest) then
      item ++ replaceMark mark item steps ((c :: rest).drop mark.length)
    else c :: replaceMark mark item steps rest

def runBatches (launch : Launch) (traced : Bool) : List (List (List Char)) → Nat → Exec Nat
  | [], status => pure status
  | command :: rest, status => do
    let name := command.headD []
    if traced then
      report ([' '].intercalate (command.map (Quotation.styled .shellEscape fun _ => false)) ++
        ['\n'])
    match (← launch command) with
    | .error error => do
      programError (Quotation.ifNeeded name ++ [':', ' '] ++ error.reason.toList)
      pure (launchStatus error)
    | .ok ending => do
      match ending.signal, ending.status with
      | some signal, _ => do
        programError (name ++ ": terminated by signal ".toList ++ decimal signal)
        pure 125
      | none, 255 => do
        programError (name ++ ": exited with status 255; aborting".toList)
        pure 124
      | none, 0 => runBatches launch traced rest status
      | none, _ => runBatches launch traced rest 123

structure ItemOptions where
  mark : Option (List Char) := none
  mostItems : Option Nat := none
  mostLines : Option Nat := none
  mostChars : Nat := 131072
  delimiter : Option Char := none
  lastItem : Option (List Char) := none
  traced : Bool := false
  onlyFilled : Bool := false
  path : Option (List Char) := none

def delimiter? (word : List Char) : Except (List Char) Char :=
  match word with
  | [c] => .ok c
  | '\\' :: rest =>
    match rest with
    | 'x' :: digits =>
      if digits ≠ [] && digits.all Text.isHexDigit then
        .ok (Char.ofNat (Text.digitsValue 16 digits % 256))
      else .error ("Invalid escape sequence ".toList ++ word ++
        " in input delimiter specification.".toList)
    | [c] =>
      match [('a', '\x07'), ('b', '\x08'), ('f', '\x0c'), ('n', '\n'), ('r', '\r'), ('t', '\t'),
          ('v', '\x0b'), ('\\', '\\'), ('0', '\x00')].lookup c with
      | some meant => .ok meant
      | none =>
        if Arithmetic.isOctal c then .ok (Char.ofNat (Text.digitsValue 8 [c]))
        else .error ("Invalid escape sequence ".toList ++ word ++
          " in input delimiter specification.".toList)
    | digits =>
      if digits ≠ [] && digits.all Arithmetic.isOctal then
        .ok (Char.ofNat (Text.digitsValue 8 digits % 256))
      else .error ("Invalid escape sequence ".toList ++ word ++
        " in input delimiter specification.".toList)
  | _ => .error ("Invalid input delimiter specification ".toList ++ word ++
      ": the delimiter must be either a single character or an escape sequence starting with \\.".toList)

def warnExclusive (option earlier : String) : Exec Unit :=
  programError ("warning: options " ++ earlier ++ " and " ++ option ++
    " are mutually exclusive, ignoring previous " ++ earlier ++ " value").toList

def itemOptions : List (Char × List Char) → ItemOptions → Exec (Except Nat ItemOptions)
  | [], found => pure (.ok found)
  | (letter, word) :: rest, found => do
    let replaceBy (mark : List Char) : Exec (Except Nat ItemOptions) := do
      if found.mostItems.isSome then warnExclusive "--replace/-I/-i" "--max-args"
      if found.mostLines.isSome then warnExclusive "--replace/-I/-i" "--max-lines"
      itemOptions rest { found with
        mark := some mark, mostItems := none, mostLines := none, delimiter := found.delimiter }
    let byLines (option : String) (count : Nat) : Exec (Except Nat ItemOptions) := do
      if found.mostItems.isSome then warnExclusive option "--max-args"
      if found.mark.isSome then warnExclusive option "--replace"
      itemOptions rest { found with mostLines := some count, mostItems := none, mark := none }
    let withNumber (least : Nat) (use : Nat → Exec (Except Nat ItemOptions)) :
        Exec (Except Nat ItemOptions) := do
      match Arithmetic.ofDecimal? word with
      | none => do
        pure (.error (← misuse ("invalid number \"".toList ++ word ++ "\" for -".toList ++ [letter] ++
          " option".toList)))
      | some value =>
        if value < least then do
          pure (.error (← misuse ("value ".toList ++ word ++ " for -".toList ++ [letter] ++
            (" option should be >= " ++ toString least).toList)))
        else use value.toNat
    match letter with
    | 'n' => withNumber 1 fun count => do
      if found.mostLines.isSome then warnExclusive "--max-args/-n" "--max-lines"
      if found.mark.isSome && count = 1 then itemOptions rest found
      else do
        if found.mark.isSome then warnExclusive "--max-args/-n" "--replace"
        itemOptions rest { found with mostItems := some count, mostLines := none, mark := none }
    | 'L' => withNumber 1 (byLines "-L")
    | 'l' => if word = [] then byLines "--max-lines" 1 else withNumber 1 (byLines "--max-lines")
    | 's' => withNumber 1 fun count =>
      itemOptions rest { found with mostChars := Nat.min count 131072 }
    | 'P' => withNumber 0 fun _ => itemOptions rest found
    | 'I' => replaceBy word
    | 'i' => replaceBy (if word = [] then "\x7b\x7d".toList else word)
    | 'd' =>
      match delimiter? word with
      | .ok delimiter => itemOptions rest { found with delimiter := some delimiter }
      | .error message => do
        programError message
        pure (.error 1)
    | '0' => itemOptions rest { found with delimiter := some '\x00' }
    | 'E' => itemOptions rest { found with lastItem := some word }
    | 'e' => itemOptions rest { found with lastItem := if word = [] then none else some word }
    | 't' => itemOptions rest { found with traced := true }
    | 'r' => itemOptions rest { found with onlyFilled := true }
    | 'a' => itemOptions rest { found with path := some word }
    | _ => itemOptions rest found

def xargs (launch : Launch) (words : List (List Char)) : Exec Nat :=
  let optional (letter : Char) (name : String) : OptionForm := { letter, name, demand := .optional }
  let forms := OptionForm.named [('0', "null"), ('p', "interactive"), ('r', "no-run-if-empty"),
      ('t', "verbose"), ('x', "exit"), ('o', "open-tty"), ('ς', "show-limits")] ++
    OptionForm.namedValued [('a', "arg-file"), ('d', "delimiter"), ('n', "max-args"),
      ('s', "max-chars"), ('P', "max-procs"), ('ϖ', "process-slot-var")] ++
    OptionForm.valued "EIL" ++ [optional 'e' "eof", optional 'i' "replace", optional 'l' "max-lines"]
  withOptions 1 .ordered forms words (itemOptions · {}) fun options arguments => do
    let command := if arguments.operands = [] then ["echo".toList] else arguments.operands
    let input : Except String (List Char) ← match options.path with
      | none => do pure (.ok (← readAll 0))
      | some path => readPath path
    match input with
    | .error reason => do
      programError ("Cannot open input file ".toList ++ shown (options.path.getD []) ++ [':', ' '] ++
        reason.toList)
      pure 1
    | .ok text => do
      let cutting := match options.delimiter, options.mark with
        | some mark, _ => .delimiter mark
        | none, some _ => .lines
        | none, none => .words
      let reader := ItemReader.ofText cutting text
      let items := reader.items.reverse
      let items := match options.lastItem, options.delimiter with
        | some last, none => items.takeWhile (·.text ≠ last)
        | _, _ => items
      if reader.hasNul then
        programError ("WARNING: a NUL character occurred in the input.  It cannot be passed " ++
          "through in the argument list.  Did you mean to use the --null option?").toList
      match reader.fault with
      | some fault => programError fault.toList
      | none => pure ()
      if options.path.isNone then setStream 0 (some (← newChannel .null))
      let batches : Batches := {
        command
        mostItems := options.mostItems
        mostLines := options.mostLines
        mostChars := options.mostChars }
      let runs : Except Unit (List (List (List Char))) := match options.mark with
        | some mark => .ok (items.map fun item =>
          command.head?.toList ++ command.tail.map fun word =>
            replaceMark mark item.text (word.length + 1) word)
        | none => (batchesOf batches items [] 0 0 0).map fun runs =>
          let runs := if runs = [] && !options.onlyFilled && reader.fault.isNone then [[]] else runs
          runs.map (command ++ ·)
      match runs with
      | .error () => do
        if options.mostChars < wordsSize command then
          programError "cannot fit single argument within argument list size limit".toList
        else programError "argument line too long".toList
        pure 1
      | .ok runs => do
        let status ← runBatches launch options.traced runs 0
        pure (if reader.fault.isSome && status = 0 then 1 else status)

end HouseStyle.Shell.Exec
