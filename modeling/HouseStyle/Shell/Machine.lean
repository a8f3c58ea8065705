import HouseStyle.FileTree.Basic
import HouseStyle.Shell.Arithmetic
import HouseStyle.Shell.Command
import HouseStyle.Shell.Mode

/-!
# Machines

A machine is what a script can change: the files, what is open, the clock, and the process that runs
the script. A process has variables, functions, options, and streams under numbers, each of which
leads to a channel. Streams of several processes can lead to the same channel.

Processes run one after the other, but each has its own time: what is started without waiting for it
runs to its end at once, and the clock is set back for the process that goes on.
-/

namespace HouseStyle.Shell

structure Variable where
  value : Option (List Char) := none
  exported : Bool := false
  readOnly : Bool := false
  deriving DecidableEq, Repr

structure Written where
  time : Nat
  job : Nat
  text : List Char

inductive Channel where
  | null
  | full
  | zeros
  | source (rest : List Char) (ready : Nat)
  | sink (pieces : List Written) (room : Option Nat)
  | file (place : Place) (position : Nat) (reads writes appends : Bool)
  | directory

structure Ending where
  status : Nat := 0
  signal : Option Nat := none
  deriving DecidableEq, Repr

structure Span where
  job : Nat
  starts : Nat
  ends : Nat
  deriving DecidableEq, Repr

structure Job where
  number : Nat
  ending : Ending
  ends : Nat
  holds : Nat
  deriving DecidableEq, Repr

structure Limit where
  soft : Option Nat := none
  hard : Option Nat := none
  deriving DecidableEq, Repr

structure Process where
  number : Nat := 1
  name : List Char
  parameters : List (List Char) := []
  bindings : List (List Char × Variable) := []
  functions : List (List Char × Command) := []
  aliases : List (List Char × List Char) := []
  options : List Char := []
  status : Nat := 0
  outputStatus : Nat := 0
  here : Place := []
  directory : List Char := ['/']
  streams : List (Nat × Nat) := []
  line : Nat := 0
  lineRead : Nat := 0
  subject : Option (List Char) := none
  loops : Nat := 0
  depth : Nat := 0
  scopes : List (List (List Char × Option Variable)) := []
  traps : List (Nat × List Char) := []
  outerTraps : Option (List (Nat × List Char)) := none
  lookedUp : List (List Char × List Char) := []
  signals : List Nat := []
  lastStarted : Option Nat := none
  started : List Nat := []
  optionOffset : Nat := 0
  mask : Nat := 18
  limits : List (Char × Limit) := []
  choked : Bool := false
  endless : Bool := false
  niceness : Int := 0
  inOrder : Bool := false

def Process.limit (process : Process) (letter : Char) : Limit :=
  (process.limits.lookup letter).getD
    (if letter = 's' then { soft := some 0x800000 } else {})

structure FileDetail where
  mode : Option Nat := none
  time : Option Int := none
  twins : Option Nat := none
  deriving DecidableEq, Repr

structure Machine where
  tree : FileTree
  details : List (Place × FileDetail) := []
  nextTwins : Nat := 0
  channels : List (Nat × Channel) := []
  nextChannel : Nat := 0
  clock : Nat := 0
  held : Nat := 0
  jobs : List Job := []
  job : Nat := 0
  spans : List Span := []
  documents : List (Nat × Word) := []
  nextDocument : Nat := 0
  nextProcess : Nat := 2
  steps : Nat
  limit : Option Nat := none
  process : Process

namespace Machine

/-! ## Files -/

def startTime : Int := 1780000000000000

def now (machine : Machine) : Int :=
  startTime + machine.clock

def detail (machine : Machine) (place : Place) : FileDetail :=
  (machine.details.lookup place).getD {}

def modeAt (machine : Machine) (place : Place) : Nat :=
  match (machine.detail place).mode, machine.tree.get? place with
  | some mode, _ => mode
  | none, some (.file _) => Mode.ofFile
  | none, some (.link _) => 0o777
  | none, some (.device _) => 0o666
  | none, _ => Mode.ofDirectory

def timeAt (machine : Machine) (place : Place) : Int :=
  (machine.detail place).time.getD (startTime - 1000000)

def setDetail (machine : Machine) (place : Place) (detail : FileDetail) : Machine :=
  { machine with details := (place, detail) :: machine.details.filter (·.1 ≠ place) }

def twins (machine : Machine) (place : Place) : List Place :=
  match (machine.detail place).twins with
  | none => [place]
  | some number => (machine.details.filter (·.2.twins = some number)).map (·.1)

def changeDetail (machine : Machine) (place : Place) (change : FileDetail → FileDetail) : Machine :=
  (machine.twins place).foldl (fun machine place =>
    machine.setDetail place (change (machine.detail place))) machine

def setContent (machine : Machine) (place : Place) (content : List UInt8) : Machine :=
  let tree := (machine.twins place).foldl (fun tree place => tree.set place (.file content))
    machine.tree
  { machine with tree }.changeDetail place fun detail => { detail with time := some machine.now }

def noteChange (machine : Machine) (place : Place) : Machine :=
  machine.changeDetail place.dropLast fun detail => { detail with time := some machine.now }

def create (machine : Machine) (place : Place) (entry : Entry) (mode : Option Nat) : Machine :=
  { machine with tree := machine.tree.set place entry }.noteChange place
    |>.setDetail place { mode, time := some machine.now }

def remove (machine : Machine) (place : Place) : Machine :=
  { machine with
    tree := machine.tree.remove place
    details := machine.details.filter fun (other, _) => !place.isPrefixOf other }.noteChange place

def move (machine : Machine) (source target : Place) : Machine :=
  let cleared := machine.remove target
  let moved := cleared.details.map fun (place, detail) =>
    match FileTree.under? source place with
    | some names => (target ++ names, detail)
    | none => (place, detail)
  let channels := cleared.channels.map fun (number, channel) =>
    match channel with
    | .file place position reads writes appends =>
      match FileTree.under? source place with
      | some names => (number, Channel.file (target ++ names) position reads writes appends)
      | none => (number, channel)
    | channel => (number, channel)
  { cleared with
    tree := (cleared.tree.copy source target).remove source
    details := moved
    channels }.noteChange source

def addTwin (machine : Machine) (source target : Place) : Machine :=
  match machine.tree.get? source with
  | none => machine
  | some entry =>
    let detail := machine.detail source
    let number := detail.twins.getD machine.nextTwins
    let detail := { detail with twins := some number }
    { machine with
      tree := machine.tree.set target entry
      nextTwins := Nat.max machine.nextTwins (number + 1) }.noteChange target
      |>.setDetail source detail
      |>.setDetail target detail

end Machine

inductive Jump where
  | breakLoop (levels : Nat)
  | continueLoop (levels : Nat)
  | returnFromFunction
  deriving DecidableEq, Repr

inductive Halt where
  | exit
  | failure
  | jump (jump : Jump)
  | killed (process signal : Nat)
  | died (signal : Nat)
  | endless
  deriving DecidableEq, Repr

abbrev Exec := ExceptT Halt (StateM Machine)

namespace Exec

def process : Exec Process := do
  pure (← get).process

def changeProcess (change : Process → Process) : Exec Unit :=
  modify fun machine => { machine with process := change machine.process }

def setStatus (status : Nat) : Exec Unit :=
  changeProcess fun process => { process with status }

def hasOption (letter : Char) : Exec Bool := do
  pure ((← process).options.contains letter)

def countStep : Exec Unit := do
  let machine ← get
  match machine.steps with
  | 0 => throw .endless
  | steps + 1 => set { machine with steps }

def errorChannel : Nat := 0

def sleepUntil (time : Nat) : Exec Unit := do
  let machine ← get
  let clock := Nat.max machine.clock time
  let holds := machine.process.streams.any (·.2 = errorChannel)
  set { machine with clock, held := if holds then Nat.max machine.held clock else machine.held }
  if machine.limit.any (· ≤ clock) then throw .endless

def sleep (duration : Nat) : Exec Unit := do
  sleepUntil ((← get).clock + duration)

def sleepForever {α : Type} : Exec α := do
  sleepUntil ((← get).limit.getD 0)
  throw .endless

def newProcessNumber : Exec Nat := do
  let machine ← get
  set { machine with nextProcess := machine.nextProcess + 1 }
  pure machine.nextProcess

def settled {α : Type} (run : Exec α) : Exec (Except Halt α) :=
  ExceptT.lift run.run

def andFinally {α : Type} (run : Exec α) (finish : Exec Unit) : Exec α := do
  let result ← settled run
  finish
  MonadExcept.ofExcept result

/-! ## Streams -/

def channel? (number : Nat) : Exec (Option Channel) := do
  pure ((← get).channels.lookup number)

def setChannel (number : Nat) (channel : Channel) : Exec Unit :=
  modify fun machine => { machine with
    channels := machine.channels.map fun old => if old.1 = number then (number, channel) else old }

def newChannel (channel : Channel) : Exec Nat := do
  let machine ← get
  let number := machine.nextChannel
  set { machine with channels := (number, channel) :: machine.channels, nextChannel := number + 1 }
  pure number

/-- Forget the channels that were made since a number was the next one and to which no stream of the
process leads. -/
def forgetChannels (since : Nat) : Exec Unit :=
  modify fun machine => { machine with
    channels := machine.channels.filter fun (number, _) =>
      number < since || machine.process.streams.any (·.2 = number) }

def streamChannel? (stream : Nat) : Exec (Option Nat) := do
  pure ((← process).streams.lookup stream)

def setStream (stream : Nat) (channel : Option Nat) : Exec Unit :=
  changeProcess fun process =>
    let others := process.streams.filter (·.1 ≠ stream)
    { process with streams := match channel with
      | some number => (stream, number) :: others
      | none => others }

def sunk (pieces : List Written) : List Char :=
  (pieces.reverse.mergeSort fun left right => left.time ≤ right.time).flatMap (·.text)

def sinkText (number : Nat) : Exec (List Char) := do
  match (← channel? number) with
  | some (.sink pieces _) => pure (sunk pieces)
  | _ => pure []

def isFull (number : Nat) : Exec Bool := do
  match (← channel? number) with
  | some (.sink _ room) => pure (room = some 0)
  | _ => pure false

def overlay (content : List Char) (position : Nat) (text : List Char) : List Char :=
  let start := content.take position
  start ++ List.replicate (position - start.length) '\x00' ++ text ++
    content.drop (position + text.length)

def brokenPipe : Nat := 13

def fileTooLarge : Nat := 25

def dieUnlessIgnored (signal : Nat) : Exec Bool := do
  if (← process).traps.lookup signal = some [] then pure false else throw (.died signal)

/-- Write a text to a channel. Gives whether that was possible. A sink without room has nobody who
reads it, which is the end of the process, unless it takes no notice of that. -/
def writeChannel (number : Nat) (text : List Char) : Exec Bool := do
  if text = [] then pure true
  else match (← channel? number) with
    | some (.sink pieces room) => do
      let piece := match room with
        | some room => text.take room
        | none => text
      let machine ← get
      setChannel number (.sink ({ time := machine.clock, job := machine.job, text := piece } :: pieces)
        (room.map (· - text.length)))
      if room.all (text.length ≤ ·) then pure true else dieUnlessIgnored brokenPipe
    | some (.file place position reads true appends) => do
      let machine ← get
      match machine.tree.get? place with
      | some (.file content) => do
        let content := ofBytes content
        let position := if appends then content.length else position
        let piece := match (machine.process.limit 'f').soft with
          | some most => text.take (most - position)
          | none => text
        set (machine.setContent place (toBytes (overlay content position piece)))
        setChannel number (.file place (position + piece.length) reads true appends)
        if piece.length = text.length then pure true else dieUnlessIgnored fileTooLarge
      | _ => pure true
    | some .null | some .zeros => pure true
    | _ => pure false

def write (stream : Nat) (text : List Char) : Exec Bool := do
  match (← streamChannel? stream) with
  | none => pure (text = [])
  | some number => writeChannel number text

def put (text : List Char) : Exec Unit := do
  if !(← write 1 text) then changeProcess fun process => { process with choked := true }

def manyChars : Nat := 0x280000

def manyZeros : List Char :=
  List.replicate manyChars '\x00'

def noteEndless (count : Nat) : Exec Unit := do
  if manyChars ≤ count then changeProcess fun process => { process with endless := true }

def pending (stream : Nat) : Exec (List Char) := do
  match (← streamChannel? stream) with
  | none => pure []
  | some number =>
    match (← channel? number) with
    | some (.source rest ready) => do
      sleepUntil ready
      pure rest
    | some (.file place position true _ _) => do
      match (← get).tree.get? place with
      | some (.file content) => pure ((ofBytes content).drop position)
      | _ => pure []
    | some .zeros => pure manyZeros
    | _ => pure []

def consume (stream : Nat) (count : Nat) : Exec Unit := do
  match (← streamChannel? stream) with
  | none => pure ()
  | some number =>
    match (← channel? number) with
    | some (.source rest ready) => setChannel number (.source (rest.drop count) ready)
    | some (.file place position reads writes appends) =>
      setChannel number (.file place (position + count) reads writes appends)
    | some .zeros => noteEndless count
    | _ => pure ()

def readAll (stream : Nat) : Exec (List Char) := do
  let text ← pending stream
  consume stream text.length
  pure text

/-! ## Complaints -/

def report (text : List Char) : Exec Unit := do
  let _ ← write 2 text

def complain (message : List Char) : Exec Unit := do
  let process ← process
  let subject := match process.subject with
    | some name => name ++ [':', ' ']
    | none => []
  report (process.name ++ [':', ' '] ++ (toString process.line).toList ++ [':', ' '] ++ subject ++
    message ++ ['\n'])

def fail {α : Type} (message : List Char) : Exec α := do
  complain message
  setStatus 2
  throw .failure

def illegalNumber {α : Type} (text : List Char) : Exec α :=
  fail ("Illegal number: ".toList ++ text)

def naturalOf (text : List Char) : Exec Nat := do
  match Arithmetic.ofDecimal? text with
  | some value => if 0 ≤ value && value < 0x80000000 then pure value.toNat else illegalNumber text
  | none => illegalNumber text

/-! ## Variables -/

def getVariable (name : List Char) : Exec (Option Variable) := do
  pure ((← process).bindings.lookup name)

def value? (name : List Char) : Exec (Option (List Char)) := do
  pure ((← getVariable name).bind (·.value))

def putVariable (name : List Char) (found : Option Variable) : Exec Unit :=
  changeProcess fun process =>
    let others := process.bindings.filter (·.1 ≠ name)
    { process with bindings := match found with
      | some new => (name, new) :: others
      | none => others }

def refuseBadName (name : List Char) : Exec Unit := do
  if !isName name then fail (name ++ ": bad variable name".toList)

def refuseReadOnly (name : List Char) : Exec Unit := do
  if ((← getVariable name).map (·.readOnly)).getD false then fail (name ++ ": is read only".toList)

def maxValue : Nat := 1000000

/-- Forget where programs were found, except in the directories with which the old and the new
search path start. -/
def forgetPrograms (old new : List Char) : Exec Unit :=
  changeProcess fun process =>
    let pairs := (Text.splitAt ':' old).zip (Text.splitAt ':' new)
    let kept := (pairs.takeWhile fun (left, right) => left = right).map (·.1)
    { process with lookedUp := process.lookedUp.filter fun (name, path) =>
        kept.contains (path.take (path.length - name.length - 1)) }

def setValue (name value : List Char) : Exec Unit := do
  if maxValue < value.length then throw .endless
  refuseBadName name
  refuseReadOnly name
  let old := (← getVariable name).getD {}
  let exported := old.exported || (← hasOption 'a')
  if name = "OPTIND".toList then
    let _ ← naturalOf value
    changeProcess fun process => { process with optionOffset := 0 }
  if name = "PATH".toList then forgetPrograms (old.value.getD []) value
  putVariable name (some { old with value := some value, exported })

def keep (kept : List Char × Option Variable) : Exec Unit :=
  changeProcess fun process => { process with scopes := match process.scopes with
    | [] => []
    | scope :: rest => (if (scope.lookup kept.1).isSome then scope else kept :: scope) :: rest }

def keepVariable (name : List Char) : Exec Unit := do
  keep (name, ← getVariable name)

def keepOptions : Exec Unit := do
  keep (['-'], some { value := some (← process).options })

def inScope {α : Type} (run : Exec α) : Exec α := do
  changeProcess fun process => { process with scopes := [] :: process.scopes }
  andFinally run do
    let scopes := (← process).scopes
    changeProcess fun process => { process with scopes := scopes.tail }
    (scopes.headD []).forM fun (name, old) =>
      if name = ['-'] then
        changeProcess fun process => { process with options := (old.bind (·.value)).getD [] }
      else putVariable name old

def separators : Exec (List Char) := do
  pure ((← value? "IFS".toList).getD [' ', '\t', '\n'])

def joiner : Exec (List Char) := do
  pure ((← separators).take 1)

/-! ## Paths -/

def pathOf (text : List Char) : Path :=
  ⟨toBytes text⟩

def ofPath (path : List UInt8) : List Char :=
  ofBytes path

def locate (path : List Char) : Exec (Except FileError (Place × Entry)) := do
  let machine ← get
  pure (machine.tree.find machine.process.here (pathOf path))

/-! ## Other processes -/

def startTime : Nat := 100

def loadTime : Nat := 400

/-- Run something in a process of its own, which starts as this one, and give its ending. What it
does to itself is forgotten, what it does to the machine is not. -/
def inChild (run : Exec Unit) : Exec Ending := do
  let before ← process
  sleep startTime
  changeProcess fun process => { process with
    traps := process.traps.filter (·.2 = [])
    outerTraps := some (process.outerTraps.getD process.traps)
    loops := 0
    started := [] }
  let result ← settled run
  let after ← process
  let signals := if after.number = before.number then after.signals else before.signals
  changeProcess fun _ => { before with signals }
  match result with
  | .error (.killed number signal) =>
    if number = before.number then throw (.killed number signal)
    else pure { status := 128 + signal, signal := some signal }
  | .error (.died signal) => pure { status := 128 + signal, signal := some signal }
  | .error .endless => throw .endless
  | _ => pure { status := after.status % 256 }

def attempt (run : Exec Unit) : Exec Bool := do
  match (← settled run) with
  | .ok () => pure true
  | .error .failure => pure false
  | .error halt => throw halt

end Exec

end HouseStyle.Shell
