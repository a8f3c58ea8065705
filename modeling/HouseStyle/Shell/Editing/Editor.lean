import HouseStyle.Shell.Editing.Script
import HouseStyle.Shell.Utility.Running

/-!
# The editor

The editor takes a line of its input, runs the commands of a script, and writes what became of the
line. Besides the line it holds another text, which is empty at first. What commands append comes
behind the line, before the next one is taken.
-/

namespace HouseStyle.Shell.Editing

inductive Appended where
  | text (text : List Char)
  | file (path : List Char)

inductive Range where
  | outside
  | inside (stop : Nat)
  | over
  deriving DecidableEq, Repr

inductive Source where
  | lines (rest : List (List Char))
  | directory

structure Sink where
  path : List Char
  channel : Nat
  dangling : Bool := false

structure Editor where
  steps : Array Step
  labels : List (List Char × Nat)
  quiet : Bool := false
  separate : Bool := false
  lineEnd : Char := '\n'
  width : Nat := 70
  eager : Bool := false
  inPlace : Option (List Char) := none
  follows : Bool := false
  paths : List (List Char)
  source : Option Source := none
  path : List Char := ['-']
  isInput : Bool := false
  used : Nat := 0
  number : Nat := 0
  line : List Char := []
  ended : Bool := true
  kept : List Char := []
  keptEnded : Bool := true
  appended : List Appended := []
  changed : Bool := false
  ranges : Array Range
  plan : Option Regex.Plan := none
  readers : List (List Char × List (List Char)) := []
  sinks : List Sink := []
  written : List Char := []
  writtenSize : Nat := 0
  dangling : Bool := false
  status : Nat := 0
  scriptEnd : ScriptPlace := {}

abbrev Edit := ExceptT Nat (StateT Editor Exec)

namespace Edit

def ofExec {α : Type} (run : Exec α) : Edit α :=
  ExceptT.lift (StateT.lift run)

def giveUp {α : Type} (status : Nat) (message : List Char) : Edit α := do
  ofExec (Exec.programError message)
  throw status

/-! ## Writing -/

def heldBack : Nat := 4096

def flushBut (count : Nat) : Edit Unit := do
  let editor ← get
  if editor.inPlace.isNone && count < editor.writtenSize then do
    set { editor with written := editor.written.take count, writtenSize := count }
    if !(← ofExec (Exec.write 1 (editor.written.drop count).reverse)) then do
      set { editor with written := [], writtenSize := 0 }
      giveUp 4 ("couldn't flush stdout: ".toList ++ (← ofExec Exec.outputFault).toList)

def emit (text : List Char) : Edit Unit := do
  modify fun editor => { editor with
    written := text.reverse ++ editor.written
    writtenSize := editor.writtenSize + text.length }
  let editor ← get
  if editor.eager then flushBut 0
  else if heldBack ≤ editor.writtenSize then flushBut (editor.writtenSize % heldBack)

def close : Edit Unit := do
  let editor ← get
  if editor.dangling then do
    set { editor with dangling := false }
    emit [editor.lineEnd]

def emitText (text : List Char) : Edit Unit := do
  close
  emit text

def emitLine (text : List Char) (ended : Bool) : Edit Unit := do
  close
  emit text
  if ended then emit [(← get).lineEnd]
  else modify fun editor => { editor with dangling := true }

def writeLine (path text : List Char) (ended : Bool) : Edit Unit := do
  let editor ← get
  match editor.sinks.find? (·.path = path) with
  | none => pure ()
  | some sink => do
    let start := if sink.dangling then [editor.lineEnd] else []
    let full := start ++ text ++ (if ended then [editor.lineEnd] else [])
    if path = "/dev/stdout".toList && editor.inPlace.isNone then emit full
    else do
      let _ ← ofExec (Exec.writeChannel sink.channel full)
    modify fun editor => { editor with
      sinks := editor.sinks.map fun other =>
        if other.path = path then { other with dangling := !ended } else other }

def flushAppended : Edit Unit := do
  let appended := (← get).appended
  modify fun editor => { editor with appended := [] }
  appended.forM fun item => do
    close
    match item with
    | .text text => emit text
    | .file path => do
      match (← ofExec (Exec.readPath path)) with
      | .ok content => emit content
      | .error reason =>
        if reason = "Is a directory" then
          giveUp 4 ("read error on ".toList ++ path ++ [':', ' '] ++ reason.toList)
        else pure ()

/-! ## Reading -/

def backupPath (form path : List Char) : List Char :=
  let name := baseName path
  let filled := if form.contains '*' then
    form.flatMap fun c => if c = '*' then name else [c] else name ++ form
  if filled.contains '/' then filled
  else path.take (path.length - name.length) ++ filled

def install : Edit Unit := do
  let editor ← get
  match editor.inPlace, editor.source with
  | some form, some (.lines _) => do
    let text := editor.written.reverse
    set { editor with written := [], writtenSize := 0, dangling := false, source := none }
    match (← ofExec (Exec.entryAt editor.follows editor.path)) with
    | .error _ => pure ()
    | .ok (place, _) => do
      let mode ← ofExec do
        match (← Exec.entryAt true editor.path) with
        | .ok (place, _) => Exec.modeAt place
        | .error _ => pure Mode.ofFile
      if form ≠ [] then do
        match (← ofExec (Exec.locateIn false (backupPath form editor.path))) with
        | .error error =>
          giveUp 4 ("cannot rename ".toList ++ editor.path ++ [':', ' '] ++ error.reason.toList)
        | .ok (.found target) | .ok (.vacant target) =>
          ofExec (modify fun machine => machine.move place target)
      else ofExec (modify fun machine => machine.remove place)
      ofExec (modify fun machine =>
        machine.create place (.file (toBytes text)) (some mode))
  | _, _ => set { editor with source := none }

def openNext : Edit Bool := do
  let editor ← get
  match editor.paths with
  | [] => pure false
  | path :: paths => do
    set { editor with paths, path, source := none, isInput := false }
    let use (content : List Char) (isInput : Bool) : Edit Unit :=
      modify fun editor => { editor with
        source := some (.lines (Exec.recordsWithEnds editor.lineEnd content))
        isInput }
    if path = ['-'] && editor.inPlace.isNone then do
      use ((← ofExec (Exec.pending 0)).drop editor.used) true
    else do
      match (← ofExec (Exec.locate path)) with
      | .ok (_, .directory) => do
        if editor.inPlace.isSome then
          giveUp 4 ("couldn't edit ".toList ++ path ++ ": not a regular file".toList)
        modify fun editor => { editor with source := some .directory }
      | .ok (_, .file content) => use (ofBytes content) false
      | .ok _ => do
        if editor.inPlace.isSome then
          giveUp 4 ("couldn't edit ".toList ++ path ++ ": not a regular file".toList)
        match (← ofExec (Exec.readPath path)) with
        | .ok content => use content false
        | .error _ => pure ()
      | .error error => do
        ofExec (Exec.programError ("can't read ".toList ++ path ++ [':', ' '] ++
          error.reason.toList))
        modify fun editor => { editor with status := 2 }
    pure true

def restart : Edit Unit :=
  modify fun editor => { editor with
    number := 0
    ranges := editor.steps.map fun step => match step.first with
      | some (.line 0) => .inside 0
      | _ => .outside }

def take : Nat → Edit (Option (List Char))
  | 0 => pure none
  | steps + 1 => do
    let editor ← get
    match editor.source with
    | some (.lines (line :: rest)) => do
      let isEnded := line.getLast? = some editor.lineEnd
      set { editor with
        source := some (.lines rest)
        used := if editor.isInput then editor.used + line.length else editor.used
        number := editor.number + 1
        ended := isEnded }
      pure (some (if isEnded then line.dropLast else line))
    | some .directory =>
      giveUp 4 ("read error on ".toList ++ editor.path ++ ": Is a directory".toList)
    | source => do
      if source.isSome then install
      if source.isSome && editor.separate && editor.paths ≠ [] then do
        close
        restart
      if (← openNext) then take steps else pure none

def takeLine : Edit (Option (List Char)) := do
  flushAppended
  modify fun editor => { editor with changed := false }
  take ((← get).paths.length + 3)

def isAtEnd : Nat → Edit Bool
  | 0 => pure true
  | steps + 1 => do
    let editor ← get
    match editor.source with
    | some (.lines (_ :: _)) => pure false
    | _ =>
      if editor.separate then
        pure (editor.source.isSome || editor.paths = [])
      else if (← openNext) then isAtEnd steps
      else pure true

def isLast : Edit Bool := do
  isAtEnd ((← get).paths.length + 3)

/-! ## Addresses -/

def planFor (plan : Option Regex.Plan) : Edit Regex.Plan := do
  let editor ← get
  match plan.or editor.plan with
  | none => giveUp 1 (editor.scriptEnd.text ++ "no previous regular expression".toList)
  | some plan => do
    set { editor with plan := some plan }
    pure plan

def fits (address : Address) : Edit Bool := do
  let editor ← get
  match address with
  | .line number => pure (editor.number = number)
  | .every first step => pure (first ≤ editor.number && (editor.number - first) % step = 0)
  | .last => isLast
  | .fitting plan => do pure ((← planFor plan).isIn editor.line)
  | .further _ | .multiple _ => pure false

def enters (range : Range) (first second : Address) : Edit (Bool × Range) := do
  let number := (← get).number
  let starts ← match first with
    | .line start => pure (range ≠ .over && decide (start ≤ number))
    | first => fits first
  if !starts then pure (false, range)
  else match second with
    | .line stop =>
      if stop ≤ number then
        let isStart : Bool := match first with
          | .line start => decide (number = start) || decide (number ≤ stop)
          | _ => true
        pure (isStart, .over)
      else pure (true, .inside stop)
    | .further 0 => pure (true, .over)
    | .further count => pure (true, .inside (number + count))
    | .multiple 0 => pure (true, .over)
    | .multiple factor => pure (true, .inside ((number / factor + 1) * factor))
    | _ => pure (true, .inside 0)

def stays (stop : Nat) (second : Address) : Edit (Bool × Range) := do
  let number := (← get).number
  match second with
  | .line _ | .further _ | .multiple _ =>
    pure (number ≤ stop, if stop ≤ number then .over else .inside stop)
  | second => do
    pure (true, if (← fits second) then .over else .inside stop)

def isChosen (index : Nat) (step : Step) : Edit Bool := do
  let chosen ← match step.first, step.second with
    | none, _ => pure true
    | some first, none => fits first
    | some first, some second => do
      let range := ((← get).ranges[index]?).getD .outside
      let (chosen, range) ← match range with
        | .inside stop => stays stop second
        | range => enters range first second
      modify fun editor => { editor with ranges := editor.ranges.set! index range }
      pure chosen
  pure (chosen ≠ step.negated)

/-! ## Commands -/

inductive Onward where
  | step (index : Nat)
  | finish (prints : Bool)
  | again
  | quit (prints : Bool) (status : Nat)

def firstPart (lineEnd : Char) (line : List Char) : List Char :=
  line.takeWhile (· ≠ lineEnd)

def jumpTo (label : List Char) : Edit Onward := do
  match (← get).labels.lookup label with
  | some index => pure (.step index)
  | none => pure (.finish true)

def outputOf (launch : Exec.Launch) (command : List Char) : Edit (List Char) := do
  flushBut 0
  ofExec do
    let old ← Exec.streamChannel? 1
    let number ← Exec.newChannel (.sink [] none)
    Exec.setStream 1 (some number)
    let _ ← launch ["sh".toList, "-c".toList, command]
    let text ← Exec.sinkText number
    Exec.setStream 1 old
    pure text

def withoutEnd (lineEnd : Char) (text : List Char) : List Char :=
  if text.getLast? = some lineEnd then text.dropLast else text

def emitCurrent : Edit Unit := do
  let editor ← get
  emitLine editor.line editor.ended

def substitute (launch : Exec.Launch) (substitution : Substitution) : Edit Unit := do
  let plan ← planFor substitution.plan
  let editor ← get
  match substitution.apply? plan editor.line with
  | none => pure ()
  | some line => do
    set { editor with line, changed := true }
    if substitution.printsBefore then emitCurrent
    if substitution.runs then do
      let text ← outputOf launch line
      modify fun editor => { editor with line := withoutEnd editor.lineEnd text }
    if substitution.printsAfter then emitCurrent
    match substitution.file with
    | some path => do
      let editor ← get
      writeLine path editor.line editor.ended
    | none => pure ()

def appendLine (path : List Char) : Edit Unit := do
  let editor ← get
  let rest? ← match editor.readers.lookup path with
    | some rest => pure (some rest)
    | none => do
      match (← ofExec (Exec.readPath path)) with
      | .ok content => pure (some (Exec.recordsWithEnds editor.lineEnd content))
      | .error "Is a directory" =>
        giveUp 4 ("read error on ".toList ++ path ++ ": Is a directory".toList)
      | .error _ => pure none
  match rest? with
  | some (line :: rest) =>
    modify fun editor => { editor with
      readers := (path, rest) :: editor.readers.filter (·.1 ≠ path)
      appended := editor.appended ++ [.text line] }
  | _ => pure ()

def carryOut (launch : Exec.Launch) (index : Nat) (step : Step) : Edit Onward := do
  let editor ← get
  let onward : Onward := .step (index + 1)
  let append (item : Appended) : Edit Onward := do
    set { editor with appended := editor.appended ++ [item] }
    pure onward
  match step.command with
  | .block _ | .nothing => pure onward
  | .append text => append (.text text)
  | .readFile path => append (.file path)
  | .readLine path => do
    appendLine path
    pure onward
  | .insert text => do
    emitText (if editor.lineEnd = '\n' then text else text.dropLast ++ [editor.lineEnd])
    pure onward
  | .change text => do
    let isInside : Bool := match editor.ranges[index]? with
      | some (.inside _) => step.second.isSome && !step.negated
      | _ => false
    if !isInside then emitText text
    pure (.finish false)
  | .jump label => jumpTo label
  | .jumpIfChanged label =>
    if editor.changed then do
      set { editor with changed := false }
      jumpTo label
    else pure onward
  | .jumpUnlessChanged label =>
    if editor.changed then do
      set { editor with changed := false }
      pure onward
    else jumpTo label
  | .delete => pure (.finish false)
  | .deleteFirst => do
    let part := firstPart editor.lineEnd editor.line
    if part.length = editor.line.length then pure (.finish false)
    else do
      set { editor with line := editor.line.drop (part.length + 1) }
      pure .again
  | .run [] => do
    let text ← outputOf launch editor.line
    modify fun editor => { editor with line := withoutEnd editor.lineEnd text }
    pure onward
  | .run command => do
    close
    emit (← outputOf launch command)
    pure onward
  | .showFile => do
    emitText (editor.path ++ ['\n'])
    pure onward
  | .recall => do
    set { editor with line := editor.kept, ended := editor.keptEnded }
    pure onward
  | .recallMore => do
    set { editor with
      line := editor.line ++ editor.lineEnd :: editor.kept, ended := editor.keptEnded }
    pure onward
  | .keep => do
    set { editor with kept := editor.line, keptEnded := editor.ended }
    pure onward
  | .keepMore => do
    set { editor with
      kept := editor.kept ++ editor.lineEnd :: editor.line, keptEnded := editor.ended }
    pure onward
  | .exchange => do
    set { editor with
      line := editor.kept, ended := editor.keptEnded, kept := editor.line
      keptEnded := editor.ended }
    pure onward
  | .list width => do
    emitText (listed (width.getD editor.width) editor.line)
    pure onward
  | .next => do
    if (← isLast) then pure (.finish true)
    else do
      if !editor.quiet then emitCurrent
      match (← takeLine) with
      | some line => do
        modify fun editor => { editor with line }
        pure onward
      | none => pure (.finish false)
  | .nextMore => do
    if (← isLast) then pure (.finish true)
    else match (← takeLine) with
      | some line => do
        modify fun editor => { editor with line := editor.line ++ editor.lineEnd :: line }
        pure onward
      | none => pure (.finish true)
  | .print => do
    emitCurrent
    pure onward
  | .printFirst => do
    let part := firstPart editor.lineEnd editor.line
    emitLine part (part.length < editor.line.length || editor.ended)
    pure onward
  | .quit status => pure (.quit true status)
  | .quitSilently status => pure (.quit false status)
  | .substitute substitution => do
    substitute launch substitution
    pure onward
  | .translate table => do
    set { editor with line := editor.line.map fun c => (table.lookup c).getD c }
    pure onward
  | .write path => do
    writeLine path editor.line editor.ended
    pure onward
  | .writeFirst path => do
    let part := firstPart editor.lineEnd editor.line
    writeLine path part (part.length < editor.line.length || editor.ended)
    pure onward
  | .empty => do
    set { editor with line := [] }
    pure onward
  | .number => do
    emitText ((toString editor.number).toList ++ [editor.lineEnd])
    pure onward
  | .broken letter => giveUp 4 ("INTERNAL ERROR: Bad cmd ".toList ++ [letter])

def takeStep (launch : Exec.Launch) (index : Nat) : Edit Onward := do
  match (← get).steps[index]? with
  | none => pure (.finish true)
  | some step => do
    if (← isChosen index step) then carryOut launch index step
    else match step.command with
      | .block stop => pure (.step (stop + 1))
      | _ => pure (.step (index + 1))

def go (launch : Exec.Launch) : Nat → Onward → Edit Nat
  | 0, _ => ofExec Exec.sleepForever
  | steps + 1, onward => do
    let editor ← get
    match onward with
    | .step index => do go launch steps (← takeStep launch index)
    | .again => go launch steps (.step 0)
    | .finish prints => do
      if prints && !editor.quiet then emitCurrent
      match (← takeLine) with
      | none => pure 0
      | some line => do
        modify fun editor => { editor with line }
        go launch steps (.step 0)
    | .quit prints status => do
      if prints then do
        if !editor.quiet then emitCurrent
        flushAppended
      pure status

def maxSteps : Nat := 1000000

def all (launch : Exec.Launch) : Edit Nat := do
  restart
  let status ← go launch maxSteps (.finish false)
  install
  flushBut 0
  let editor ← get
  pure (if editor.status = 0 then status else editor.status)

end Edit

end HouseStyle.Shell.Editing
