import HouseStyle.Shell.Control
import HouseStyle.Shell.Utility

/-!
# Running commands

Commands change the machine and leave a status. Pipelines, commands in parentheses, and commands
whose output is put into words run in processes of their own.
-/

namespace HouseStyle.Shell.Exec

def maxRounds : Nat := 1000000

def maxDepth : Nat := 1000

/-- The words behind `command` and its options, if they are the words of a command to run, and
whether it is looked for in the standard places. -/
def behindCommand? : Bool → List (List Char) → Option (Bool × List (List Char))
  | _, [] => none
  | standard, word :: rest =>
    match word with
    | ['-', '-'] => if rest = [] then none else some (standard, rest)
    | '-' :: letter :: letters =>
      if (letter :: letters).all (· = 'p') then behindCommand? true rest else none
    | _ => some (standard, word :: rest)

structure Call where
  words : List (List Char)
  functions : Bool := true
  standard : Bool := false

def command : List Char := "command".toList

def isCommand (name : List Char) : Exec Bool := do
  pure (name = command && (← function? name).isNone)

def callOf : Nat → Call → Exec Call
  | 0, call => pure call
  | count + 1, call => do
    match call.words with
    | name :: rest => do
      let isCommand ← isCommand name
      if name = command && (isCommand || !call.functions) then
        match behindCommand? call.standard rest with
        | some (standard, words) => callOf count { words, functions := false, standard }
        | none => pure { call with functions := false }
      else pure call
    | [] => pure call

def takesAssignments (name : List Char) : Bool :=
  ["export", "readonly", "local", "alias"].contains (String.ofList name)

def expandCall (run : Command → Exec (List Char)) (behindCommand : Bool) :
    List Word → Exec (List (List Char))
  | [] => pure []
  | word :: rest => do
    match (← expandWord run word) with
    | [] => expandCall run behindCommand rest
    | name :: more => do
      if more = [] && (← isCommand name) then
        pure (name :: (← expandCall run true rest))
      else if behindCommand && more = [] && name.head? = some '-' then
        pure (name :: (← expandCall run true rest))
      else
        let assigns := takesAssignments name && (← function? name).isNone
        let fields ← rest.mapM fun word => do
          match if assigns then assignment? word else none with
          | some (assigned, value) => do
            pure [assigned ++ ['='] ++ (← expandValue run value)]
          | none => expandWord run word
        pure (name :: more ++ fields.flatten)

def traceStart (run : Command → Exec (List Char)) : Exec (List Char) := do
  let text := (← value? "PS4".toList).getD []
  match (readParts (20 * text.length + 100) .document).run { text } with
  | .ok (word, _) => do
    turnOption 'x' false
    andFinally (expandText run word) (turnOption 'x' true)
  | .error _ => pure text

def trace (run : Command → Exec (List Char)) (channel : Option Nat) (assignments : List (List Char × List Char))
    (words : List (List Char)) : Exec Unit := do
  if (← hasOption 'x') then
    let start ← traceStart run
    let shown := assignments.map (fun (name, value) => name ++ ['='] ++ value) ++ words
    match channel with
    | some number => do
      let _ ← writeChannel number (start ++ [' '].intercalate shown ++ ['\n'])
    | none => pure ()

def scriptPath (path : List Char) : Exec (List Char) := do
  if path.contains '/' then pure path
  else
    let directories := Text.splitAt ':' ((← searchPath).getD [])
    let found ← directories.filterMapM fun directory => do
      let path := if directory = [] then path else directory ++ ['/'] ++ path
      match (← locate path) with
      | .ok (_, .file _) => pure (some path)
      | _ => pure none
    match found with
    | path :: _ => pure path
    | [] => fail (path ++ ": not found".toList)

def scriptText (path : List Char) : Exec (List Char) := do
  match (← readPathAsScript path) with
  | .ok text => pure text
  | .error error => fail (Opening.complaint .read path error)
where
  readPathAsScript (path : List Char) : Exec (Except FileError (List Char)) := do
    match (← locate path) with
    | .ok (_, .file content) => pure (.ok (ofBytes content))
    | .ok (_, .device (.stream stream)) => do
      pure (.ok (← readAll stream))
    | .ok _ => pure (.ok [])
    | .error error => pure (.error error)

def firstVariables (parent : Nat) (inherited : List (List Char × Variable)) :
    List (List Char × Variable) :=
  let fixed := [("IFS", " \t\n"), ("OPTIND", "1"), ("PPID", toString parent), ("PS1", "# "),
    ("PS2", "> "), ("PS4", "+ ")].map
    fun (name, value) => (name.toList, ({ value := some value.toList } : Variable))
  inherited.filter (fun (name, _) => (fixed.lookup name).isNone) ++ fixed

def becomeInterpreter (name : List Char) : Exec Unit := do
  let number ← newProcessNumber
  changeProcess fun process =>
    let exported := process.bindings.filterMap fun (name, found) =>
      if found.exported && found.value.isSome then some (name, { found with readOnly := false })
      else none
    { number, name
      bindings := firstVariables process.number exported
      here := process.here
      directory := process.directory
      streams := process.streams
      traps := process.traps.filter (·.2 = [])
      mask := process.mask
      limits := process.limits
      niceness := process.niceness }

/-- Turn on the options in a word. Gives whether the script is among the arguments, and the words
that are left. -/
def argumentOptions (on : Bool) : List Char → List (List Char) → Exec (Bool × List (List Char))
  | [], rest => pure (false, rest)
  | 'c' :: letters, rest => do
    pure (true, (← argumentOptions on letters rest).2)
  | 'o' :: letters, rest => do
    match rest with
    | [] => do
      listOptions on
      argumentOptions on letters []
    | name :: rest => do
      turnNamedOption name on
      argumentOptions on letters rest
  | letter :: letters, rest => do
    if isOptionLetter letter then changeOption letter on
    else if letter ≠ 'l' then illegalOption [letter]
    argumentOptions on letters rest

/-- Read the arguments of an interpreter: options first, and then a script and its parameters. Gives
the text of the script, unless it stands in the input. -/
def takeArguments : Nat → Bool → List (List Char) → Exec (Option (List Char))
  | 0, _, _ => pure none
  | count + 1, inArguments, words => do
    match words with
    | ['-'] :: rest | ['-', '-'] :: rest => finish inArguments rest
    | ('-' :: letters) :: rest => do
      let (found, rest) ← argumentOptions true letters rest
      takeArguments count (inArguments || found) rest
    | ('+' :: letters) :: rest => do
      let (found, rest) ← argumentOptions false letters rest
      takeArguments count (inArguments || found) rest
    | rest => finish inArguments rest
where
  finish (inArguments : Bool) (rest : List (List Char)) : Exec (Option (List Char)) := do
    let setNames (names : List (List Char)) : Exec Unit := do
      match names with
      | name :: parameters => changeProcess fun process => { process with name, parameters }
      | [] => pure ()
    match inArguments, rest with
    | true, [] => fail "-c requires an argument".toList
    | true, text :: rest => do
      setNames rest
      pure (some text)
    | false, [] => do
      turnOption 's' true
      pure none
    | false, path :: parameters => do
      if (← hasOption 's') then
        changeProcess fun process => { process with parameters := path :: parameters }
        pure none
      else
        let text ← scriptText path
        setNames (path :: parameters)
        pure (some text)

/-- A pipeline that runs: the output of the last command so far, when all are over, how much room the
next one gets, and whether the last one filled its room. -/
structure Stages where
  input : Option Nat := none
  ends : Nat
  room : Nat
  full : Bool := false
  starved : Bool := false

def pipeRooms : List Nat := [0x10000, 0x200000]

def inRooms : List Nat → (Nat → Exec Bool) → Exec Unit
  | [], _ => throw .endless
  | room :: rooms, run => do
    if !(← run room) then inRooms rooms run

def isDrained (input : Option Nat) : Exec Bool := do
  match input with
  | none => pure false
  | some number =>
    match (← channel? number) with
    | some (.source rest _) => pure (rest = [])
    | _ => pure false

def noteSpan (starts : Nat) : Exec Unit := do
  let machine ← get
  if machine.job ≠ 0 && machine.process.streams.any (·.2 = errorChannel) then
    set { machine with
      spans := { job := machine.job, starts, ends := machine.clock } :: machine.spans }

mutual

def perform : Nat → Mode → Command → Exec Unit
  | 0, _, _ => throw .endless
  | fuel + 1, mode, command => do
    if (← hasOption 'n') then pure ()
    else do
      runCommand fuel mode command
      handleSignals fuel
      match command with
      | .simple _ _ _ _ | .subshell _ _ _ | .background _ | .pipeline _ => checkFailure mode
      | _ => pure ()

def runCommand : Nat → Mode → Command → Exec Unit
  | 0, _, _ => throw .endless
  | fuel + 1, mode, command => do
    match command with
    | .nothing => pure ()
    | .simple line assignments words redirections =>
      runSimple fuel mode line assignments words redirections
    | .pipeline commands => runPipeline fuel mode commands
    | .negation command => do
      perform fuel { tested := true } command
      setStatus (if (← process).status = 0 then 1 else 0)
    | .onSuccess first second => do
      perform fuel { tested := true } first
      if (← process).status = 0 then perform fuel mode second
    | .onFailure first second => do
      perform fuel { tested := true } first
      if (← process).status ≠ 0 then perform fuel mode second
    | .sequence first second => do
      perform fuel { tested := mode.tested } first
      perform fuel mode second
    | .background command => runInBackground fuel command
    | .subshell line command redirections => do
      setLine line
      let targets ← redirections.mapM (expandRedirection (outputOf fuel))
      let ending ← inChild (toEnd fuel do
        redirectAll (outputOf fuel) false targets
        perform fuel { mode with last := true } command)
      announce ending
      setStatus ending.status
    | .redirected line command redirections => do
      setLine line
      let targets ← redirections.mapM (expandRedirection (outputOf fuel))
      keepingStreams do
        if (← attempt (redirectAll (outputOf fuel) true targets)) then
          perform fuel { tested := mode.tested } command
        else
          setStatus 2
          checkFailure mode
    | .conditional test yes no => do
      perform fuel { tested := true } test
      if (← process).status = 0 then perform fuel mode yes
      else match no with
        | .nothing => setStatus 0
        | no => perform fuel mode no
    | .loop onSuccess test body =>
      inLoop do
        let status ← repeatWhile onSuccess (perform fuel { tested := true } test)
          (perform fuel { tested := mode.tested } body) maxRounds 0
        setStatus status
    | .forEach line name words body => do
      setLine line
      let values ← expandWords (outputOf fuel) words
      if values = [] then setStatus 0
      else inLoop (repeatFor (fun value => do
        setValue name value
        perform fuel { tested := mode.tested } body) values)
    | .choice line word cases => do
      setLine line
      let text ← expandText (outputOf fuel) word
      runChoice fuel mode text cases
    | .define _ name body => do
      changeProcess fun process =>
        { process with functions := (name, body) :: process.functions.filter (·.1 ≠ name) }
      setStatus 0

def runChoice : Nat → Mode → List Char → List (List Word × Command) → Exec Unit
  | 0, _, _, _ => throw .endless
  | _ + 1, _, _, [] => setStatus 0
  | fuel + 1, mode, text, (patterns, body) :: rest => do
    if (← anyMatches (outputOf fuel) text patterns) then
      match body with
      | .nothing => setStatus 0
      | body => perform fuel mode body
    else runChoice fuel mode text rest

def runPipeline : Nat → Mode → List Command → Exec Unit
  | 0, _, _ => throw .endless
  | fuel + 1, mode, commands => do
    commands.forM rememberCommand
    let machine ← get
    inRooms pipeRooms fun room => do
      set machine
      runStages fuel mode room commands

/-- Run the commands of a pipeline with so much room for the output of the first, and less for those
after it. Gives whether every command that was ended for lack of room would have been so with more
room, because nobody read all of what it wrote. -/
def runStages : Nat → Mode → Nat → List Command → Exec Bool
  | 0, _, _, _ => throw .endless
  | fuel + 1, mode, room, commands => do
    let machine ← get
    let start : Stages := { ends := machine.clock, room }
    let stages ← commands.zipIdx.foldlM (fun (stages : Stages) (command, index) => do
      modify fun machine' => { machine' with clock := machine.clock }
      let isLast := index + 1 = commands.length
      let sink ← newChannel (.sink [] (some stages.room))
      let ending ← inChild (toEnd fuel do
        match stages.input with
        | some number => setStream 0 (some number)
        | none => pure ()
        if !isLast then setStream 1 (some sink)
        perform fuel { mode with last := true } command)
      let now := (← get).clock
      let full ← isFull sink
      let starved := stages.full && !full && (← isDrained stages.input)
      setChannel sink (.source (← sinkText sink) now)
      announce ending
      if isLast then setStatus ending.status
      pure { input := some sink, ends := Nat.max stages.ends now, room := stages.room / 2, full,
             starved := stages.starved || starved }) start
    modify fun machine => { machine with clock := stages.ends }
    forgetChannels machine.nextChannel
    pure !stages.starved

def runInBackground : Nat → Command → Exec Unit
  | 0, _ => throw .endless
  | fuel + 1, command => do
    let machine ← get
    let number ← newProcessNumber
    modify fun machine => { machine with job := number }
    let result ← settled (inChild (toEnd fuel do
      setStream 0 (some (← newChannel .null))
      perform fuel { last := true } command
      match command with
      | .simple _ _ _ _ | .subshell _ _ _ => pure ()
      | _ => sleep 0))
    let after ← get
    let ending ← match result with
      | .ok ending => pure ending
      | .error halt => do
        if halt = .endless && after.limit.any (· ≤ after.clock) then pure {} else throw halt
    let job : Job := { number, ending, ends := after.clock, holds := after.held }
    set { after with
      clock := machine.clock
      held := machine.held
      job := machine.job
      jobs := after.jobs ++ [job] }
    changeProcess fun process =>
      { process with lastStarted := some number, started := process.started ++ [number] }
    setStatus 0

def outputOf : Nat → Command → Exec (List Char)
  | 0, _ => throw .endless
  | fuel + 1, command => do
    let since := (← get).nextChannel
    let sink ← newChannel (.sink [] none)
    let ending ← inChild (toEnd fuel do
      setStream 1 (some sink)
      perform fuel { last := true } command)
    let text ← sinkText sink
    forgetChannels since
    announce ending
    changeProcess fun process => { process with outputStatus := ending.status }
    pure ((text.filter (· ≠ '\x00')).reverse.dropWhile (· = '\n')).reverse

def toEnd : Nat → Exec Unit → Exec Unit
  | 0, _ => throw .endless
  | fuel + 1, body => do
    match (← settled body) with
    | .error (.killed number signal) => throw (.killed number signal)
    | .error (.died signal) => throw (.died signal)
    | .error .endless => throw .endless
    | _ => do
      match (← process).traps.lookup 0 with
      | none | some [] => pure ()
      | some action => do
        let status := (← process).status
        setTrap 0 none
        match (← settled (runText fuel {} action)) with
        | .ok () | .error (.jump _) => setStatus status
        | .error .exit | .error .failure => pure ()
        | .error halt => throw halt

def handleSignals : Nat → Exec Unit
  | 0 => throw .endless
  | fuel + 1 => do
    let process ← process
    match process.signals, process.outerTraps with
    | signal :: rest, none => do
      changeProcess fun process => { process with signals := rest }
      match process.traps.lookup signal with
      | none | some [] => pure ()
      | some action => do
        runText fuel {} action
        setStatus process.status
      handleSignals fuel
    | _, _ => pure ()

def runText : Nat → Mode → List Char → Exec Unit
  | 0, _, _ => throw .endless
  | fuel + 1, mode, text => runLines (perform fuel mode) text

def runSimple : Nat → Mode → Nat → List (List Char × Word) → List Word → List Redirection →
    Exec Unit
  | 0, _, _, _, _, _ => throw .endless
  | fuel + 1, mode, line, assignments, words, redirections => do
    countStep
    setLine line
    changeProcess fun process => { process with outputStatus := 0 }
    let output := outputOf fuel
    let fields ← expandCall output false words
    let call ← callOf fields.length { words := fields }
    let name := call.words.headD []
    let isFunction := call.functions && (← function? name).isSome
    let isSpecial := fields.head?.any isSpecialName
    let targets ← redirections.mapM (expandRedirection output)
    let channel ← streamChannel? 2
    let execute : Exec Unit := do
      let values ← assignments.mapM fun (assigned, word) => do
        let value ← expandValue output word
        if !(isSpecial || fields = []) then
          keepVariable assigned
        setValue assigned value
        if !(isSpecial || fields = []) then
          putVariable assigned (some { value := some value, exported := true })
        pure (assigned, value)
      trace output channel values fields
      runCall fuel mode call
    let body : Exec Unit := do
      if (← attempt (redirectAll output true targets)) then
        if isSpecial || fields = [] || assignments = [] && !isFunction then execute
        else inScope execute
      else
        setStatus 2
        if isSpecial then throw .failure
    if !isFunction && name = "exec".toList then
      let streams := (← process).streams
      match (← settled body) with
      | .ok () => pure ()
      | .error halt => do
        if halt = .failure then changeProcess fun process => { process with streams }
        throw halt
    else keepingStreams body

def runCall : Nat → Mode → Call → Exec Unit
  | 0, _, _ => throw .endless
  | fuel + 1, mode, call => do
    match call.words with
    | [] => setStatus (← process).outputStatus
    | name :: arguments => do
      let found ← function? name
      match if call.functions then found else none with
      | some body => runFunction fuel mode body arguments
      | none => do
        let isSpecial := call.functions && isSpecialName name
        let builtin (action : Exec Nat) : Exec Unit := do
          if isSpecial then runBuiltin name action
          else
            let _ ← attempt (runBuiltin name action)
        match String.ofList name with
        | "eval" =>
          builtin do
            runText fuel { tested := mode.tested } ([' '].intercalate arguments)
            pure (← process).status
        | "." => builtin (runScript fuel arguments)
        | "exec" => builtin (runLast fuel arguments)
        | text =>
          match builtins.lookup text with
          | some action => builtin (action arguments)
          | none => runProgram fuel mode call.standard name arguments

def runFunction : Nat → Mode → Command → List (List Char) → Exec Unit
  | 0, _, _, _ => throw .endless
  | fuel + 1, mode, body, parameters => do
    let before ← process
    if maxDepth ≤ before.depth then
      fail ("Maximum function recursion depth (" ++ toString maxDepth ++ ") reached").toList
    changeProcess fun process =>
      { process with parameters, loops := 0, depth := before.depth + 1 }
    let result ← settled (perform fuel { tested := mode.tested } body)
    changeProcess fun process => { process with
      parameters := before.parameters
      loops := before.loops
      depth := before.depth }
    match result with
    | .ok () | .error (.jump .returnFromFunction) => pure ()
    | .error halt => throw halt

def runScript : Nat → List (List Char) → Exec Nat
  | 0, _ => throw .endless
  | fuel + 1, words => do
    match (← operands words) with
    | [] => pure 0
    | path :: _ => do
      let path ← scriptPath path
      let text ← scriptText path
      withSubject path do
        match (← settled (runText fuel {} text)) with
        | .ok () | .error (.jump .returnFromFunction) => pure (← process).status
        | .error halt => throw halt

def runLast : Nat → List (List Char) → Exec Nat
  | 0, _ => throw .endless
  | fuel + 1, words => do
    match words with
    | [] => pure 0
    | name :: arguments => do
      let found ← if name.contains '/' then startAt name name arguments
        else do startIn name arguments .notFound (directoriesIn (← searchPath))
      match found with
      | .ok start => do
        let ending ← inChild (execute fuel start)
        changeProcess fun process => { process with traps := [], status := ending.status }
        match ending.signal with
        | some signal => throw (.died signal)
        | none => throw .exit
      | .error error => do
        complain (name ++ [':', ' '] ++ runReason error)
        setStatus (runStatus error)
        throw .exit

def runProgram : Nat → Mode → Bool → List Char → List (List Char) → Exec Unit
  | 0, _, _, _, _ => throw .endless
  | fuel + 1, mode, standard, name, arguments => do
    let usual ← searchPath
    let refuse (error : FileError) (status : Nat) : Exec Unit := do
      complain (name ++ [':', ' '] ++ runReason error)
      setStatus status
    let run (start : Start) : Exec Unit := do
      let starts := (← get).clock
      let result ← settled (inChild (execute fuel start))
      if !mode.last then noteSpan starts
      let ending ← MonadExcept.ofExcept result
      setStatus ending.status
      match ending.signal with
      | some signal => if mode.last then throw (.died signal) else announce ending
      | none => pure ()
    if name.contains '/' then
      match (← startAt name name arguments) with
      | .ok start => run start
      | .error error => refuse error (runStatus error)
    else
      let directories := directoriesIn (if standard then some standardPath else usual)
      match (← directoriesWith name .notFound directories) with
      | .error error => refuse error 127
      | .ok directories => do
        rememberProgram name (searchedPath (directories.headD []) name)
        match (← startIn name arguments .notFound directories) with
        | .ok start => run start
        | .error error => refuse error (runStatus error)

def execute : Nat → Start → Exec Unit
  | 0, _ => throw .endless
  | fuel + 1, start => do
    sleep loadTime
    match start.program with
    | .succeed => setStatus 0
    | .fail => setStatus 1
    | .utility utility => do
      setStatus (← runUtility (launch fuel) utility start.name start.arguments)
    | .interpreter => interpret fuel start.name start.arguments

def launch : Nat → List (List Char) → Exec (Except FileError Ending)
  | 0, _ => throw .endless
  | _ + 1, [] => pure (.error .notFound)
  | fuel + 1, name :: arguments => do
    let path := (← environment? "PATH").getD "/bin:/usr/bin".toList
    let found ← if name.contains '/' || name = [] then startAt name name arguments
      else startIn name arguments .notFound (directoriesIn (some path))
    match found with
    | .ok start => do pure (.ok (← inChild (execute fuel start)))
    | .error error => pure (.error error)

def interpret : Nat → List Char → List (List Char) → Exec Unit
  | 0, _, _ => throw .endless
  | fuel + 1, name, arguments => do
    becomeInterpreter name
    toEnd fuel do
      match (← takeArguments (arguments.length + 1) false arguments) with
      | some text => do
        runText fuel {} text
        if (← hasOption 's') then runText fuel {} (← readAll 0)
      | none => runText fuel {} (← readAll 0)

end

end HouseStyle.Shell.Exec
