import HouseStyle.Shell.Values

/-!
# Signals and jobs

A signal is known by its number or its name. A process that gets one carries out what it was told to
do then, or ignores it, or comes to its end.
-/

namespace HouseStyle.Shell

namespace Signal

def names : List String :=
  ["EXIT", "HUP", "INT", "QUIT", "ILL", "TRAP", "ABRT", "BUS", "FPE", "KILL", "USR1", "SEGV",
    "USR2", "PIPE", "ALRM", "TERM", "16", "CHLD", "CONT", "STOP", "TSTP", "TTIN", "TTOU", "URG",
    "XCPU", "XFSZ", "VTALRM", "PROF", "WINCH", "IO", "PWR", "SYS", "32", "33", "RTMIN"] ++
  (List.range 15).map (fun n => "RTMIN+" ++ toString (n + 1)) ++
  (List.range 14).map (fun n => "RTMAX-" ++ toString (14 - n)) ++ ["RTMAX"]

def name (signal : Nat) : List Char :=
  (names[signal]?.getD "").toList

def find? (lowest : Nat) (text : List Char) : Option Nat :=
  if text ≠ [] && text.all Char.isDigit then
    let number := Text.digitsValue 10 text
    if number < names.length then some number else none
  else
    let upper := String.ofList (text.map Char.toUpper)
    (names.findIdx? (· = upper)).filter (lowest ≤ ·)

def announcement (signal : Nat) : List Char :=
  let texts := [(1, "Hangup"), (3, "Quit"), (4, "Illegal instruction"),
    (5, "Trace/breakpoint trap"), (6, "Aborted"), (7, "Bus error"), (8, "Floating point exception"),
    (9, "Killed"), (10, "User defined signal 1"), (11, "Segmentation fault"),
    (12, "User defined signal 2"), (14, "Alarm clock"), (15, "Terminated"), (16, "Stack fault"),
    (24, "CPU time limit exceeded"), (25, "File size limit exceeded"),
    (26, "Virtual timer expired"), (27, "Profiling timer expired"), (29, "I/O possible"),
    (30, "Power failure"), (31, "Bad system call")]
  match texts.lookup signal with
  | some text => text.toList ++ ['\n']
  | none =>
    if 32 ≤ signal then ("Real-time signal " ++ toString (signal - 34) ++ "\n").toList else []

def isIdle (signal : Nat) : Bool :=
  signal ∈ [17, 18, 23, 28]

def stops (signal : Nat) : Bool :=
  signal ∈ [19, 20, 21, 22]

def isFinal (signal : Nat) : Bool :=
  signal = 9 || signal = 19

end Signal

namespace Exec

def listTraps : Exec Unit := do
  let traps := (← process).traps
  put ((List.range Signal.names.length).flatMap fun signal =>
    match traps.lookup signal with
    | some action => "trap -- ".toList ++ quote action ++ [' '] ++ Signal.name signal ++ ['\n']
    | none => [])

def setTrap (signal : Nat) (action : Option (List Char)) : Exec Unit :=
  changeProcess fun process =>
    let others := process.traps.filter (·.1 ≠ signal)
    { process with traps := match action with
      | some action => (signal, action) :: others
      | none => others }

def setTraps (action : Option (List Char)) : List (List Char) → Exec Nat
  | [] => pure 0
  | word :: rest => do
    match Signal.find? 0 word with
    | some signal => do
      setTrap signal action
      setTraps action rest
    | none => do
      report ("trap: ".toList ++ word ++ ": bad trap\n".toList)
      pure 1

def trap (words : List (List Char)) : Exec Nat := do
  match (← operands words) with
  | [] => do
    listTraps
    pure 0
  | [word] => setTraps none [word]
  | first :: rest =>
    if first.all Char.isDigit && (Signal.find? 0 first).isSome then setTraps none (first :: rest)
    else setTraps (if first = ['-'] then none else some first) rest

def raise (signal : Nat) : Exec Unit := do
  let process ← process
  match (process.outerTraps.getD process.traps).lookup signal with
  | some action =>
    if Signal.isFinal signal then strike signal
    else if action ≠ [] then
      changeProcess fun process => { process with signals := process.signals ++ [signal] }
  | none => strike signal
where
  strike (signal : Nat) : Exec Unit := do
    if Signal.stops signal then sleepForever
    else if signal ≠ 0 && !Signal.isIdle signal then throw (.killed (← process).number signal)

def forgetWritten (number time : Nat) : Channel → Channel
  | .sink pieces room =>
    .sink (pieces.filter fun piece => piece.job ≠ number || piece.time ≤ time) room
  | channel => channel

def raiseIn (signal : Nat) (number : Nat) : Exec Bool := do
  let machine ← get
  match machine.jobs.find? (·.number = number) with
  | none => pure false
  | some job => do
    if machine.clock < job.ends && signal ≠ 0 && !Signal.isIdle signal then
      let running := machine.spans.filter fun span =>
        span.job = number && span.starts ≤ machine.clock && machine.clock < span.ends
      let ended := { job with
        ending := { status := 128 + signal, signal := some signal }
        ends := machine.clock
        holds := running.foldl (fun time span => Nat.max time span.ends)
          (Nat.min job.holds machine.clock) }
      set { machine with
        jobs := machine.jobs.map fun (old : Job) => if old.number = number then ended else old
        channels := machine.channels.map fun (other, channel) =>
          (other, forgetWritten number machine.clock channel) }
    pure true

/-! ## Jobs -/

def job? (number : Nat) : Exec (Option Job) := do
  pure ((← get).jobs.find? (·.number = number))

/-- The process that goes by a word: by its number, or by a percent sign and its place among the
jobs. -/
def jobNumber (word : List Char) : Exec Nat := do
  match word with
  | '%' :: place => do
    let started := (← process).started
    let found :=
      if place ∈ [[], ['%'], ['+']] then started.getLast?
      else if place.all Char.isDigit then started[Text.digitsValue 10 place - 1]?
      else none
    match found with
    | some number => pure number
    | none => fail ("No such job: ".toList ++ word)
  | word => naturalOf word

def sendSignal (signal : Nat) (words : List (List Char)) : Exec Nat := do
  let results ← words.mapM fun word => do
    let number ← jobNumber word
    if number = (← process).number then
      raise signal
      pure true
    else if (← raiseIn signal number) then pure true
    else
      complain "No such process\n".toList
      pure false
  pure (if results.all id then 0 else 1)

def killUsage : List Char :=
  ("Usage: kill [-s sigspec | -signum | -sigspec] [pid | job]... or\n" ++
    "kill -l [exitstatus]").toList

def listSignals (words : List (List Char)) : Exec Nat := do
  match words with
  | [] => do
    put ("0\n".toList ++ Signal.names.tail.flatMap fun name => name.toList ++ ['\n'])
    pure 0
  | word :: _ => do
    let number ← naturalOf word
    let signal := if 128 < number then number - 128 else number
    if 0 < signal && signal < Signal.names.length then
      put (Signal.name signal ++ ['\n'])
      pure 0
    else fail ("invalid signal number or exit status: ".toList ++ word)

def kill (words : List (List Char)) : Exec Nat := do
  let send (signal : Nat) (words : List (List Char)) : Exec Nat :=
    if words = [] then fail killUsage else sendSignal signal words
  match words with
  | [] => fail killUsage
  | ('-' :: name) :: rest => do
    match Signal.find? 1 name with
    | some signal => send signal rest
    | none => do
      let (options, rest) ← takeOptions [('l', false), ('s', true)] words
      let isList := options.any (·.1 = 'l')
      match (options.filter (·.1 = 's')).getLast? with
      | some (_, name) => do
        match Signal.find? 1 name with
        | some signal => if isList then fail killUsage else send signal rest
        | none => fail ("invalid signal number or name: ".toList ++ name)
      | none => if isList then listSignals rest else send 15 rest
  | words => send 15 words

def announce (ending : Ending) : Exec Unit :=
  match ending.signal with
  | some signal => report (Signal.announcement signal)
  | none => pure ()

def waitFor (number : Nat) : Exec Nat := do
  match (← job? number) with
  | some job => do
    sleepUntil job.ends
    announce job.ending
    pure job.ending.status
  | none => pure 127

def waitForEach : List (List Char) → Nat → Exec Nat
  | [], status => pure status
  | word :: rest, _ => do
    let status ← waitFor (← jobNumber word)
    waitForEach rest status

def wait (words : List (List Char)) : Exec Nat := do
  match (← operands words) with
  | [] => do
    let started := (← process).started
    (← get).jobs.forM fun job => do
      if started.contains job.number then sleepUntil job.ends
    pure 0
  | words => waitForEach words 127

def listJobs (words : List (List Char)) : Exec Nat := do
  let _ ← takeOptions [('l', false), ('p', false)] words
  let started := (← process).started
  let machine ← get
  let running := started.filter fun number =>
    machine.jobs.any fun job => job.number = number && machine.clock < job.ends
  put (running.flatMap fun number =>
    let place := started.idxOf number + 1
    let mark := if some number = started.getLast? then '+' else '-'
    ['['] ++ decimal place ++ [']', ' ', mark] ++ " Running                    \n".toList)
  pure 0

end Exec

end HouseStyle.Shell
