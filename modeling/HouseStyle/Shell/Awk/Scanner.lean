import HouseStyle.Shell.Awk.Format
import HouseStyle.Shell.Awk.Parts
import HouseStyle.Shell.Awk.Table
import HouseStyle.Shell.Redirection
import HouseStyle.Shell.Utility.Running

/-!
# The scanner

The scanner holds the values of a program that runs, the record it looks at, what is left of its
input, and what it has not written yet.

The fields of a record are only found when they are needed, and a record is only put together again
when it is. What is written is held back; it comes out before another program is started.
-/

namespace HouseStyle.Shell.Awk

inductive Slot where
  | scalar (value : Value)
  | table (number : Nat)

inductive Source where
  | text (rest : List Char)
  | input

structure Feed where
  name : List Char
  isCommand : Bool
  source : Source
  status : Nat := 0

inductive Destination where
  | stream (number : Nat)
  | channel (number : Nat)
  | command
  deriving DecidableEq, Repr

structure Writer where
  name : List Char
  destination : Destination
  text : List Char := []
  size : Nat := 0

structure Scanner where
  functions : List Function := []
  globals : Std.HashMap String Value := {}
  names : Std.HashMap String Nat := {}
  tables : Std.HashMap Nat Table := {}
  nextTable : Nat := 0
  frame : List (String × Slot) := []
  depth : Nat := 0
  record : List Char := []
  isJoined : Bool := true
  fields : Array Value := #[]
  isSplit : Bool := true
  separator : Separator := .blanks
  recordEnd : RecordEnd := .char '\n'
  argument : Nat := 0
  source : Option Source := none
  hadFile : Bool := false
  input : List Char := []
  feeds : List Feed := []
  writers : List Writer := [{ name := "/dev/stdout".toList, destination := .stream 1 }]
  plans : Std.HashMap String Regex.Plan := {}
  ranges : List Nat := []
  random : Random := []
  seed : Value := .unset
  status : Nat := 0
  steps : Nat

inductive Leaving where
  | next
  | nextFile
  | exit
  | giveBack (value : Value)
  | leave
  | goOn
  | failed

abbrev Scan := ExceptT Leaving (StateT Scanner Exec)

namespace Scan

def ofExec {α : Type} (run : Exec α) : Scan α :=
  ExceptT.lift (StateT.lift run)

def fail {α : Type} (message : List Char) : Scan α := do
  ofExec (Exec.programError message)
  modify fun scanner => { scanner with status := 2 }
  throw .failed

def step : Scan Unit := do
  let scanner ← get
  match scanner.steps with
  | 0 => ofExec Exec.sleepForever
  | steps + 1 => set { scanner with steps }

def global (name : String) : Scan Value := do
  pure ((← get).globals.getD name .unset)

def setGlobal (name : String) (value : Value) : Scan Unit :=
  modify fun scanner => { scanner with globals := scanner.globals.insert name value }

/-! ## Texts -/

def numberText (format : List Char) (value : Float) : List Char :=
  let plain := floatText { precision := some 6 } 'g' value
  if format = "%.6g".toList then plain
  else (Format.text (fun value => floatText { precision := some 6 } 'g' value) format
    [.number value]).1

def textBy (format : String) (value : Value) : Scan (List Char) := do
  match value with
  | .unset => pure []
  | .text text | .input text => pure text
  | .number value =>
    match plainText? value with
    | some text => pure text
    | none => do
      let form := (← global format).toText fun _ => []
      pure (numberText form value)

def textOf (value : Value) : Scan (List Char) :=
  textBy "CONVFMT" value

def globalText (name : String) : Scan (List Char) := do
  textOf (← global name)

def failRunning {α : Type} (message : List Char) : Scan α := do
  let name ← globalText "FILENAME"
  let fileNumber ← globalText "FNR"
  let number ← globalText "NR"
  fail ("run time error: ".toList ++ message ++ "\n\tFILENAME=\"".toList ++ name ++
    "\" FNR=".toList ++ fileNumber ++ " NR=".toList ++ number)

def ofSpelling {α : Type} (source : List Char) (found : Except Spelling.Fault α) : Scan α :=
  match found with
  | .ok value => pure value
  | .error fault =>
    failRunning (("regular expression compile failed (" ++ fault.message ++ ")\n").toList ++ source)

def planFor (source : List Char) : Scan Regex.Plan := do
  let name := String.ofList source
  match (← get).plans[name]? with
  | some plan => pure plan
  | none => do
    let plan ← ofSpelling source (Spelling.planOf source)
    modify fun scanner => { scanner with plans := scanner.plans.insert name plan }
    pure plan

/-! ## Fields -/

def split : Scan Unit := do
  let scanner ← get
  if !scanner.isSplit then do
    let parts := scanner.separator.parts scanner.record
    set { scanner with fields := (parts.map Value.input).toArray, isSplit := true }

def setRecord (record : List Char) : Scan Unit :=
  modify fun scanner => { scanner with record, isJoined := true, isSplit := false, fields := #[] }

def wholeRecord : Scan (List Char) := do
  let scanner ← get
  if scanner.isJoined then pure scanner.record
  else do
    let between ← globalText "OFS"
    let texts ← scanner.fields.toList.mapM textOf
    let record := between.intercalate texts
    modify fun scanner => { scanner with record, isJoined := true }
    pure record

def field (index : Nat) : Scan Value := do
  if index = 0 then do pure (.input (← wholeRecord))
  else do
    split
    pure (((← get).fields[index - 1]?).getD (.text []))

def setCount (count : Nat) : Scan Unit := do
  split
  modify fun scanner =>
    let kept := scanner.fields.extract 0 count
    { scanner with
      fields := kept ++ Array.replicate (count - kept.size) (Value.text [])
      isJoined := false }

def setField (index : Nat) (value : Value) : Scan Unit := do
  if index = 0 then do setRecord (← textOf value)
  else do
    split
    if (← get).fields.size < index then setCount index
    modify fun scanner => { scanner with
      fields := scanner.fields.setIfInBounds (index - 1) value, isJoined := false }

def fieldIndex (value : Value) : Scan Nat := do
  let number := value.toNumber
  let index := truncated number
  if index < 0 then
    failRunning ("negative field index $".toList ++ (← textOf (.number number)))
  else pure index.toNat

/-! ## Names -/

def nameValue (name : String) : Scan Value := do
  let scanner ← get
  match scanner.frame.lookup name with
  | some (.scalar value) => pure value
  | some (.table _) => pure .unset
  | none =>
    if name = "NF" then do
      split
      pure (.ofNat (← get).fields.size)
    else pure (scanner.globals.getD name .unset)

def assignGlobal (name : String) (value : Value) : Scan Unit := do
  match name with
  | "NF" => do
    let count := truncated value.toNumber
    if count < 0 then failRunning "negative value assigned to NF".toList
    setCount count.toNat
  | "FS" => do
    split
    setGlobal name value
    let text ← textOf value
    let separator ← ofSpelling text (Separator.ofText text)
    modify fun scanner => { scanner with separator }
  | "RS" => do
    setGlobal name value
    let text ← textOf value
    let recordEnd ← ofSpelling text (RecordEnd.ofText text)
    modify fun scanner => { scanner with recordEnd }
  | name => setGlobal name value

def assignName (name : String) (value : Value) : Scan Unit := do
  let scanner ← get
  if (scanner.frame.lookup name).isSome then
    set { scanner with
      frame := scanner.frame.map fun (other, slot) =>
        (other, if other = name then .scalar value else slot) }
  else assignGlobal name value

def newTable : Scan Nat := do
  let scanner ← get
  set { scanner with
    tables := scanner.tables.insert scanner.nextTable {}
    nextTable := scanner.nextTable + 1 }
  pure scanner.nextTable

def tableNumber (name : String) : Scan Nat := do
  let scanner ← get
  match scanner.frame.lookup name with
  | some (.table number) => pure number
  | some (.scalar _) => do
    let number ← newTable
    modify fun scanner => { scanner with
      frame := scanner.frame.map fun (other, slot) =>
        (other, if other = name then .table number else slot) }
    pure number
  | none =>
    match scanner.names[name]? with
    | some number => pure number
    | none => do
      let number ← newTable
      modify fun scanner => { scanner with names := scanner.names.insert name number }
      pure number

def table (number : Nat) : Scan Table := do
  pure ((← get).tables.getD number {})

def setTable (number : Nat) (table : Table) : Scan Unit :=
  modify fun scanner => { scanner with tables := scanner.tables.insert number table }

def keyOf (value : Value) : Scan Key := do
  match value with
  | .number number =>
    match whole? number with
    | some n =>
      if n.natAbs < 0x8000000000000000 then pure (.whole n) else do pure (.text (← textOf value))
    | none => do pure (.text (← textOf value))
  | value => do pure (.text (← textOf value))

/-! ## Output -/

def heldBack : Nat := 4096

def deliver (writer : Writer) (text : List Char) : Scan Unit := do
  let isFine ← ofExec (match writer.destination with
    | .stream stream => Exec.write stream text
    | .channel number => Exec.writeChannel number text
    | .command => pure true)
  if !isFine then do
    modify fun scanner => { scanner with
      writers := scanner.writers.map fun other =>
        if other.name = writer.name then { other with text := [], size := 0 } else other }
    fail ("close failed on file \"".toList ++ writer.name ++ "\" (".toList ++
      (← ofExec Exec.outputFault).toList ++ [')'])

def changeWriter (name : List Char) (isCommand : Bool) (change : Writer → Writer) : Scan Unit :=
  modify fun scanner => { scanner with
    writers := scanner.writers.map fun writer =>
      if writer.name = name && (writer.destination = .command) = isCommand then change writer
      else writer }

def flushBut (count : Nat) (writer : Writer) : Scan Unit := do
  if writer.destination ≠ .command && count < writer.size then do
    changeWriter writer.name false fun writer =>
      { writer with text := writer.text.take count, size := count }
    deliver writer (writer.text.drop count).reverse

def flush : Scan Unit := do
  (← get).writers.forM (flushBut 0)

def runCommand (launch : Exec.Launch) (shell command : List Char) : Exec Nat := do
  match (← launch [shell, "-c".toList, command]) with
  | .ok ending => pure (match ending.signal with
    | some signal => 256 + signal
    | none => ending.status)
  | .error _ => pure 127

def pipeShell : List Char := "/bin/sh".toList

def feedCommand (launch : Exec.Launch) (command text : List Char) : Scan Nat :=
  ofExec do
    let old ← Exec.streamChannel? 0
    Exec.setStream 0 (some (← Exec.newChannel (.source text 0)))
    let status ← runCommand launch pipeShell command
    Exec.setStream 0 old
    pure status

def outputOf (launch : Exec.Launch) (command : List Char) : Scan (List Char × Nat) := do
  flush
  ofExec do
    let old ← Exec.streamChannel? 1
    let number ← Exec.newChannel (.sink [] none)
    Exec.setStream 1 (some number)
    let status ← runCommand launch pipeShell command
    let text ← Exec.sinkText number
    Exec.setStream 1 old
    pure (text, status)

def openWriter (outlet : Outlet) (name : List Char) : Scan Writer := do
  match outlet with
  | .command => do
    flush
    pure { name, destination := .command }
  | outlet =>
    if name = "/dev/stderr".toList then pure { name, destination := .stream 2 }
    else do
      let opening := if outlet = .append then Opening.append else .overwrite
      match (← ofExec (Exec.openChannel opening name)) with
      | .ok channel => pure { name, destination := .channel channel }
      | .error error =>
        fail ("cannot open \"".toList ++ name ++ "\" for output (".toList ++ error.reason.toList ++
          [')'])

def emit (outlet : Outlet) (name text : List Char) : Scan Unit := do
  let name := if name = ['-'] && outlet ≠ .command then "/dev/stdout".toList else name
  let isMeant (writer : Writer) : Bool :=
    writer.name = name && (writer.destination = .command) = (outlet = .command)
  let scanner ← get
  let writer ← match scanner.writers.find? isMeant with
    | some writer => pure writer
    | none => openWriter outlet name
  let writer := { writer with
    text := text.reverse ++ writer.text
    size := writer.size + text.length }
  modify fun scanner => { scanner with
    writers := writer :: scanner.writers.filter fun writer => !isMeant writer }
  if writer.destination = .stream 2 then flushBut 0 writer
  else if heldBack ≤ writer.size then flushBut (writer.size % heldBack) writer

def emitOutput (text : List Char) : Scan Unit := do
  let scanner ← get
  match scanner.writers with
  | writer :: rest =>
    if writer.destination = .stream 1 && writer.size < heldBack then do
      set { scanner with
        writers := { writer with
          text := text.reverse ++ writer.text, size := writer.size + text.length } :: rest }
      if heldBack ≤ writer.size + text.length then emit .overwrite "/dev/stdout".toList []
    else emit .overwrite "/dev/stdout".toList text
  | [] => emit .overwrite "/dev/stdout".toList text

def closeWriter (launch : Exec.Launch) (writer : Writer) : Scan Nat := do
  match writer.destination with
  | .command => do
    modify fun scanner => { scanner with
      writers := scanner.writers.filter fun other =>
        !(other.name = writer.name && other.destination = .command) }
    feedCommand launch writer.name writer.text.reverse
  | _ => do
    flushBut 0 writer
    if writer.destination ≠ .stream 1 then
      modify fun scanner => { scanner with
        writers := scanner.writers.filter fun other =>
          !(other.name = writer.name && other.destination ≠ .command) }
    pure 0

def closeAll (launch : Exec.Launch) : Scan Unit := do
  let scanner ← get
  let (commands, others) := scanner.writers.partition fun writer => writer.destination = .command
  set { scanner with writers := others }
  commands.forM fun writer => do
    let _ ← feedCommand launch writer.name writer.text.reverse
  flush

def close (launch : Exec.Launch) (name : List Char) : Scan Int := do
  let scanner ← get
  let feeds := scanner.feeds.filter (·.name = name)
  set { scanner with feeds := scanner.feeds.filter (·.name ≠ name) }
  let writers := scanner.writers.filter (·.name = name)
  let statuses ← writers.mapM (closeWriter launch)
  pure (match statuses, feeds with
    | status :: _, _ => status
    | [], feed :: _ => feed.status
    | [], [] => -1)

/-! ## Input -/

def fill : Scan Bool := do
  let isDirectory ← ofExec do
    match (← Exec.streamChannel? 0) with
    | none => pure false
    | some number =>
      match (← Exec.channel? number) with
      | some .directory => pure true
      | _ => pure false
  if isDirectory then fail "read error (Is a directory)".toList
  let text := (← ofExec (Exec.pending 0)).take heldBack
  ofExec (Exec.consume 0 heldBack)
  modify fun scanner => { scanner with input := scanner.input ++ text }
  pure (text ≠ [])

def fillTo (wanted : Option Char) : Nat → Scan Unit
  | 0 => pure ()
  | steps + 1 => do
    if wanted.any (← get).input.contains then pure ()
    else if (← fill) then fillTo wanted steps
    else pure ()

def recordFrom (source : Source) : Scan (Option (List Char × Source)) := do
  let recordEnd := (← get).recordEnd
  match source with
  | .text rest =>
    pure ((recordEnd.first? rest).map fun (record, rest) => (record, .text rest))
  | .input => do
    let size := (← ofExec (Exec.pending 0)).length
    fillTo (match recordEnd with
      | .char c => some c
      | _ => none) (size / heldBack + 2)
    let scanner ← get
    match recordEnd.first? scanner.input with
    | some (record, rest) => do
      set { scanner with input := rest }
      pure (some (record, .input))
    | none => pure none

def setting? (word : List Char) : Option (String × List Char) :=
  let name := word.takeWhile isNamePart
  match name, word.drop name.length with
  | c :: _, '=' :: value => if isNameStart c then some (String.ofList name, value) else none
  | _, _ => none

def openSource (path : List Char) : Scan (Except FileError Source) := do
  if path = ['-'] || path = "/dev/stdin".toList then pure (.ok .input)
  else match (← ofExec (Exec.locate path)) with
    | .error error => pure (.error error)
    | .ok (_, .directory) => fail "read error (Is a directory)".toList
    | .ok _ => do
      match (← ofExec (Exec.readPath path)) with
      | .ok content => pure (.ok (.text content))
      | .error _ => pure (.ok (.text []))

def applySetting (name : String) (value : List Char) : Scan Unit :=
  assignGlobal name (.input (unescaped (value.length + 1) value))

def nextSource : Nat → Scan Bool
  | 0 => pure false
  | steps + 1 => do
    let scanner ← get
    let argument := scanner.argument + 1
    let count := truncated (← global "ARGC").toNumber
    if count ≤ argument then
      if scanner.hadFile then pure false
      else do
        set { scanner with source := some .input, hadFile := true, argument }
        setGlobal "FILENAME" (.text ['-'])
        pure true
    else do
      set { scanner with argument }
      let arguments ← table (← tableNumber "ARGV")
      let key : Key := .whole argument
      let path ← textOf (arguments.value key)
      match path, setting? path with
      | [], _ => nextSource steps
      | _, some (name, value) => do
        applySetting name value
        nextSource steps
      | path, none => do
        setGlobal "FILENAME" (.text path)
        setGlobal "FNR" (.number 0)
        match (← openSource path) with
        | .ok source => do
          modify fun scanner => { scanner with source := some source, hadFile := true }
          pure true
        | .error error =>
          fail ("cannot open \"".toList ++ path ++ "\" (".toList ++ error.reason.toList ++ [')'])

def nextRecord : Nat → Scan (Option (List Char))
  | 0 => pure none
  | steps + 1 => do
    let scanner ← get
    let found ← match scanner.source with
      | some source => recordFrom source
      | none => pure none
    match found with
    | some (record, source) => do
      modify fun scanner => { scanner with source := some source }
      pure (some record)
    | none => do
      modify fun scanner => { scanner with source := none }
      let count := (truncated (← global "ARGC").toNumber).toNat
      if (← nextSource (count + 2)) then nextRecord steps else pure none

def takeRecord : Scan (Option (List Char)) := do
  let count := (truncated (← global "ARGC").toNumber).toNat
  match (← nextRecord (count + 2)) with
  | none => pure none
  | some record => do
    setGlobal "NR" (.number ((← global "NR").toNumber + 1))
    setGlobal "FNR" (.number ((← global "FNR").toNumber + 1))
    pure (some record)

def feedRecord (launch : Exec.Launch) (isCommand : Bool) (name : List Char) :
    Scan (Option (Option (List Char))) := do
  let isMeant (feed : Feed) : Bool := feed.name = name && feed.isCommand = isCommand
  let opened ← match (← get).feeds.find? isMeant with
    | some feed => pure (some feed)
    | none =>
      if isCommand then do
        let (text, status) ← outputOf launch name
        pure (some { name, isCommand, source := .text text, status })
      else do
        match (← openSource name) with
        | .ok source => pure (some { name, isCommand, source })
        | .error _ => pure none
  match opened with
  | none => pure none
  | some feed => do
    let found ← recordFrom feed.source
    let source := match found with
      | some (_, source) => source
      | none => .text []
    modify fun scanner => { scanner with
      feeds := { feed with source } :: scanner.feeds.filter fun feed => !isMeant feed }
    pure (some (found.map (·.1)))

end Scan

end HouseStyle.Shell.Awk
