import HouseStyle.Shell.Arithmetic
import HouseStyle.Shell.Editing.Basic
import HouseStyle.Shell.Regex.BareClass
import HouseStyle.Text.Find

namespace HouseStyle.Shell.Editing

/-! ## Escapes -/

def digitEscape? (base most : Nat) (text : List Char) : Option (Char × Nat) :=
  let isDigit (c : Char) : Bool := match base with
    | 8 => Arithmetic.isOctal c
    | 10 => c.isDigit
    | _ => Text.isHexDigit c
  let digits := (text.take most).takeWhile isDigit
  if digits = [] then none
  else some (Char.ofNat (Text.digitsValue base digits % 256), digits.length)

def escape? (text : List Char) : Option (Char × Nat) :=
  match text with
  | 'a' :: _ => some ('\x07', 1)
  | 'f' :: _ => some ('\x0c', 1)
  | 'n' :: _ => some ('\n', 1)
  | 'r' :: _ => some ('\r', 1)
  | 't' :: _ => some ('\t', 1)
  | 'v' :: _ => some ('\x0b', 1)
  | 'c' :: '\\' :: '\\' :: _ => some (Char.ofNat 28, 3)
  | 'c' :: c :: _ => some (Char.ofNat (c.toUpper.toNat ^^^ 64), 2)
  | 'd' :: rest => (digitEscape? 10 3 rest).map fun (c, count) => (c, count + 1)
  | 'o' :: rest => (digitEscape? 8 3 rest).map fun (c, count) => (c, count + 1)
  | 'x' :: rest => (digitEscape? 16 2 rest).map fun (c, count) => (c, count + 1)
  | _ => none

def withEscapes : Nat → List Char → List Char
  | 0, text => text
  | _ + 1, [] => []
  | steps + 1, '\\' :: c :: rest =>
    match escape? (c :: rest) with
    | some (meant, count) => meant :: withEscapes steps ((c :: rest).drop count)
    | none => '\\' :: c :: withEscapes steps rest
  | steps + 1, c :: rest => c :: withEscapes steps rest

/-- A text in which a backslash stands before characters that mean themselves, in at most so many
steps. -/
def unescaped : Nat → List Char → List Char
  | 0, text => text
  | _ + 1, [] => []
  | steps + 1, '\\' :: c :: rest =>
    match escape? (c :: rest) with
    | some (meant, count) => meant :: unescaped steps ((c :: rest).drop count)
    | none => c :: unescaped steps rest
  | steps + 1, c :: rest => c :: unescaped steps rest

structure PieceReader where
  done : List Piece := []
  text : List Char := []
  casing : Casing := .asIs
  first : Option Casing := none

namespace PieceReader

def finish (reader : PieceReader) (group : Option Nat) : PieceReader :=
  { reader with
    done := { text := reader.text.reverse, casing := reader.casing, first := reader.first, group } ::
      reader.done
    text := []
    first := none }

def read : Nat → PieceReader → List Char → PieceReader
  | 0, reader, _ => reader
  | _ + 1, reader, [] => reader.finish none
  | steps + 1, reader, '&' :: rest => read steps (reader.finish (some 0)) rest
  | steps + 1, reader, ['\\'] => read steps { reader with text := '\\' :: reader.text } []
  | steps + 1, reader, '\\' :: c :: rest =>
    if c.isDigit then read steps (reader.finish (some (Text.digitsValue 10 [c]))) rest
    else
      let turned (casing : Casing) : PieceReader := { reader.finish none with casing }
      let started (casing : Casing) : PieceReader := { reader.finish none with first := some casing }
      match c with
      | 'L' => read steps (turned .lower) rest
      | 'U' => read steps (turned .upper) rest
      | 'E' => read steps (turned .asIs) rest
      | 'l' => read steps (started .lower) rest
      | 'u' => read steps (started .upper) rest
      | c =>
        match escape? (c :: rest) with
        | some (meant, count) =>
          read steps { reader with text := meant :: reader.text } ((c :: rest).drop count)
        | none => read steps { reader with text := c :: reader.text } rest
  | steps + 1, reader, c :: rest => read steps { reader with text := c :: reader.text } rest

end PieceReader

def piecesOf (text : List Char) : List Piece :=
  (PieceReader.read (text.length + 1) {} text).done.reverse

/-! ## Texts between delimiters -/

inductive Bracket where
  | outside
  | start
  | inside
  | named (mark : Char)
  deriving DecidableEq, Repr

/-- Read up to a delimiter. `ofRegex` tells that brackets have a meaning. Gives the text, the last
character first, and the rest and how much was read, if there is one. -/
def delimited (mark : Char) (ofRegex : Bool) : Nat → Bracket → List Char → List Char → Nat →
    Bool × List Char × List Char × Nat
  | 0, _, rest, text, count => (false, text, rest, count)
  | _ + 1, _, [], text, count => (false, text, [], count)
  | steps + 1, bracket, c :: rest, text, count =>
    let go := delimited mark ofRegex steps
    if c = '\n' then (false, text, c :: rest, count)
    else if c = mark && bracket = .outside then (true, text, rest, count + 1)
    else if c = '\\' then
      match rest with
      | [] => (false, text, [], count + 1)
      | next :: after =>
        if next = 'n' && ofRegex then
          go (if bracket = .start then .inside else bracket) after ('\n' :: text) (count + 2)
        else if next = '\n' then
          go (if bracket = .start then .inside else bracket) after ('\n' :: text) (count + 2)
        else if next = mark && !(!ofRegex && next = '&') then
          go (if bracket = .start then .inside else bracket) after (next :: text) (count + 2)
        else if bracket = .outside then go bracket after (next :: '\\' :: text) (count + 2)
        else go .inside rest ('\\' :: text) (count + 1)
    else match bracket with
      | .outside =>
        if c = '[' && ofRegex then
          match rest with
          | '^' :: after => go .start after ('^' :: c :: text) (count + 2)
          | rest => go .start rest (c :: text) (count + 1)
        else go .outside rest (c :: text) (count + 1)
      | .named ending =>
        if c = ending && rest.head? = some ']' then
          go .inside (rest.drop 1) (']' :: c :: text) (count + 2)
        else go bracket rest (c :: text) (count + 1)
      | _ =>
        if c = ']' && bracket = .inside then go .outside rest (c :: text) (count + 1)
        else match c, rest with
          | '[', next :: after =>
            if next = ':' || next = '.' || next = '=' then
              go (.named next) after (next :: c :: text) (count + 2)
            else go .inside rest (c :: text) (count + 1)
          | _, _ => go .inside rest (c :: text) (count + 1)

/-! ## Scripts -/

inductive Origin where
  | expression (number : Nat)
  | file (path : List Char)
  deriving DecidableEq, Repr

structure ScriptPlace where
  origin : Origin := .expression 0
  line : Nat := 0
  used : Nat := 0

def ScriptPlace.text (place : ScriptPlace) : List Char :=
  match place.origin with
  | .expression number =>
    ("-e expression #" ++ toString number ++ ", char " ++ toString place.used ++ ": ").toList
  | .file path => "file ".toList ++ path ++ (" line " ++ toString place.line ++ ": ").toList

structure Script where
  rest : List Char := []
  place : ScriptPlace := {}
  steps : Array Step := #[]
  blocks : List (Nat × ScriptPlace) := []
  labels : List (List Char × Nat) := []
  pending : Option (List Char) := none
  extended : Bool := false
  quiet : Bool := false
  confined : Bool := false
  pieces : Nat := 0

inductive ScriptFault where
  | at (place : ScriptPlace) (message : List Char)
  | noLabel (label : List Char)
  | bareClass

abbrev Reading := ExceptT ScriptFault (StateM Script)

namespace Reading

def refuse {α : Type} (message : String) : Reading α := do
  throw (.at (← get).place message.toList)

def next : Reading (Option Char) := do
  let script ← get
  match script.rest with
  | [] => pure none
  | c :: rest => do
    let line := if c = '\n' then script.place.line + 1 else script.place.line
    set { script with rest, place := { script.place with line, used := script.place.used + 1 } }
    pure (some c)

def back : Option Char → Reading Unit
  | none => pure ()
  | some c => modify fun script => { script with
      rest := c :: script.rest
      place := { script.place with
        line := if c = '\n' then script.place.line - 1 else script.place.line
        used := script.place.used - 1 } }

def takeOff (count : Nat) : Reading Unit :=
  modify fun script => { script with
    rest := script.rest.drop count
    place := { script.place with
      line := script.place.line + ((script.rest.take count).count '\n')
      used := script.place.used + count } }

def takeWhile (isTaken : Char → Bool) : Reading (List Char) := do
  let text := (← get).rest.takeWhile isTaken
  takeOff text.length
  pure text

def isBlank (c : Char) : Bool :=
  c = ' ' || c = '\t'

def isSpace (c : Char) : Bool :=
  c = ' ' || ('\t' ≤ c && c ≤ '\r')

def nextFilled : Reading (Option Char) := do
  let _ ← takeWhile isBlank
  next

def number : Reading Nat := do
  pure (Text.digitsValue 10 (← takeWhile Char.isDigit))

def upTo (mark : Char) (ofRegex : Bool) : Reading (Option (List Char)) := do
  let script ← get
  let (found, text, _, count) :=
    delimited mark ofRegex (script.rest.length + 1) .outside script.rest [] 0
  takeOff count
  pure (if found then some text.reverse else none)

def between (what : String) (mark : Option Char) (ofRegex : Bool) : Reading (List Char) := do
  match mark with
  | none => refuse what
  | some mark => do
    match (← upTo mark ofRegex) with
    | some text => pure text
    | none => refuse what

def planOf (text : List Char) (folded inLines : Bool) (groups : Nat) :
    Reading (Option Regex.Plan) := do
  if text = [] then
    if folded || inLines then refuse "cannot specify modifiers on empty regexp" else pure none
  else
    let extended := (← get).extended
    let text := withEscapes (text.length + 1) text
    let spelling : Regex.Spelling := { extended, strictRepeats := extended, strictBounds := true }
    match Regex.ofText spelling text with
    | .error fault => refuse fault.message
    | .ok regex =>
      if regex.groupCount < groups then
        refuse ("invalid reference \\" ++ toString groups ++ " on \x60s' command's RHS")
      else if Regex.hasBareClass (text.length + 1) text then throw .bareClass
      else pure (some (regex.plan folded inLines false))

def addressMarks : Nat → Bool → Bool → Reading (Bool × Bool)
  | 0, folded, inLines => pure (folded, inLines)
  | steps + 1, folded, inLines => do
    match (← nextFilled) with
    | some 'I' => addressMarks steps true inLines
    | some 'M' => addressMarks steps folded true
    | c => do
      back c
      pure (folded, inLines)

def address? (start : Option Char) : Reading (Option Address) := do
  let ofRegex (mark : Option Char) : Reading (Option Address) := do
    let text ← between "unterminated address regex" mark true
    let (folded, inLines) ← addressMarks (← get).rest.length.succ false false
    pure (some (.fitting (← planOf text folded inLines 0)))
  match start with
  | some '/' => ofRegex (some '/')
  | some '\\' => do ofRegex (← next)
  | some '$' => pure (some .last)
  | some '+' => do
    let _ ← takeWhile isBlank
    pure (some (.further (← number)))
  | some '~' => do
    let _ ← takeWhile isBlank
    pure (some (.multiple (← number)))
  | some c =>
    if c.isDigit then do
      back (some c)
      let first ← number
      match (← nextFilled) with
      | some '~' => do
        let _ ← takeWhile isBlank
        match (← number) with
        | 0 => pure (some (.line first))
        | step => pure (some (.every first step))
      | c => do
        back c
        pure (some (.line first))
    else pure none
  | none => pure none

def finish : Reading Unit := do
  match (← nextFilled) with
  | some '\x7d' => back (some '\x7d')
  | some '#' => back (some '#')
  | none | some '\n' | some ';' => pure ()
  | some _ => refuse "extra characters after command"

def label : Reading (List Char) := do
  let _ ← takeWhile isBlank
  let found ← takeWhile fun c => !isSpace c && c ≠ ';' && c ≠ '\x7d'
  pure found

def fileName : Reading (List Char) := do
  if (← get).confined then refuse "e/r/w commands disabled in sandbox mode"
  let _ ← takeWhile isBlank
  let name ← takeWhile (· ≠ '\n')
  if name = [] then refuse "missing filename in r/R/w/W commands"
  let _ ← next
  pure name

/-- Read a text to its end, in at most so many steps. Gives it, the last character first, and how
much was read, and whether it goes on in the next piece. -/
def textFrom : Nat → List Char → List Char → Nat → List Char × Nat × Bool
  | 0, _, text, count => (text, count, false)
  | _ + 1, [], text, count => ('\n' :: text, count, false)
  | _ + 1, '\n' :: _, text, count => ('\n' :: text, count + 1, false)
  | _ + 1, ['\\'], text, count => ('\n' :: text, count + 1, true)
  | steps + 1, '\\' :: c :: rest, text, count =>
    match escape? (c :: rest) with
    | some (meant, size) =>
      textFrom steps ((c :: rest).drop size) (meant :: text) (count + 1 + size)
    | none => textFrom steps rest (c :: text) (count + 2)
  | steps + 1, c :: rest, text, count => textFrom steps rest (c :: text) (count + 1)

def textBehind (start : List Char) : Reading (List Char) := do
  let rest := (← get).rest
  let (text, count, goesOn) := textFrom (rest.length + 1) rest start.reverse 0
  takeOff count
  if goesOn then modify fun script => { script with pending := some text.reverse }
  pure text.reverse

def commandText : Reading (List Char) := do
  match (← nextFilled) with
  | none => refuse "expected \\ after \x60a', \x60c' or \x60i'"
  | some '\\' => do
    match (← next) with
    | none => do
      modify fun script => { script with pending := some [] }
      pure []
    | some '\n' => textBehind []
    | c => do
      back c
      textBehind []
  | some '\n' => textBehind []
  | c => do
    back c
    textBehind []

def substitutionMarks : Nat → Substitution → Bool → Bool → Reading (Substitution × Bool × Bool)
  | 0, substitution, folded, inLines => pure (substitution, folded, inLines)
  | steps + 1, substitution, folded, inLines => do
    let go := substitutionMarks steps
    match (← next) with
    | some 'i' | some 'I' => go substitution true inLines
    | some 'm' | some 'M' => go substitution folded true
    | some 'e' => do
      if (← get).confined then refuse "e/r/w commands disabled in sandbox mode"
      go { substitution with runs := true } folded inLines
    | some 'p' =>
      if substitution.printsBefore || substitution.printsAfter then
        refuse "multiple \x60p' options to \x60s' command"
      else if substitution.runs then go { substitution with printsAfter := true } folded inLines
      else go { substitution with printsBefore := true } folded inLines
    | some 'g' =>
      if substitution.all then refuse "multiple \x60g' options to \x60s' command"
      else go { substitution with all := true } folded inLines
    | some 'w' => do
      pure ({ substitution with file := some (← fileName) }, folded, inLines)
    | some '\x7d' => do
      back (some '\x7d')
      pure (substitution, folded, inLines)
    | some '#' => do
      back (some '#')
      pure (substitution, folded, inLines)
    | none | some '\n' | some ';' => pure (substitution, folded, inLines)
    | some '\r' => do
      match (← next) with
      | some '\n' => pure (substitution, folded, inLines)
      | _ => refuse "unknown option to \x60s'"
    | some c =>
      if isBlank c then go substitution folded inLines
      else if c.isDigit then do
        if substitution.number ≠ 0 then refuse "multiple number options to \x60s' command"
        back (some c)
        match (← number) with
        | 0 => refuse "number option to \x60s' command may not be zero"
        | number => go { substitution with number } folded inLines
      else refuse "unknown option to \x60s'"

def groupsOf (pieces : List Piece) : Nat :=
  pieces.foldl (fun most piece => Nat.max most (piece.group.getD 0)) 0

def substitution : Reading Command := do
  let fault := "unterminated \x60s' command"
  let mark ← next
  let regex ← between fault mark true
  let pieces := piecesOf (← between fault mark false)
  let (found, folded, inLines) ←
    substitutionMarks (← get).rest.length.succ { plan := none, pieces } false false
  let plan ← planOf regex folded inLines (groupsOf pieces)
  pure (.substitute { found with
    plan
    printsBefore := found.printsBefore && found.runs
    printsAfter := found.printsAfter || (found.printsBefore && !found.runs) })

def translation : Reading Command := do
  let fault := "unterminated \x60y' command"
  let mark ← next
  let source ← between fault mark false
  let target ← between fault mark false
  let sources := unescaped (source.length + 1) source
  let targets := unescaped (target.length + 1) target
  if sources.length ≠ targets.length then
    refuse "strings for \x60y' command are different lengths"
  finish
  pure (.translate (sources.zip targets))

def argument? : Reading (Option Nat) := do
  match (← nextFilled) with
  | some c => do
    back (some c)
    if c.isDigit then pure (some (← number)) else pure none
  | none => pure none

def isLater (version : List Char) : Bool :=
  let numbers := (Text.splitAt '.' version).map fun part => Text.digitsValue 10
    (part.takeWhile Char.isDigit)
  let major := numbers.headD 0
  let minor := numbers.tail.headD 0
  4 < major || (major = 4 && 9 < minor)

def command? (step : Step) (letter : Option Char) : Reading (Option Command) := do
  let plain (command : Command) : Reading (Option Command) := do
    finish
    pure (some command)
  let script ← get
  match letter with
  | none => refuse "missing command"
  | some '#' => do
    if step.first.isSome then refuse "comments don't accept any addresses"
    if script.pieces = 1 && script.place.used = 1 && script.rest.head? = some 'n' then
      modify fun script => { script with quiet := true }
    let _ ← takeWhile (· ≠ '\n')
    let _ ← next
    pure none
  | some '\x7b' => do
    modify fun script => { script with
      blocks := (script.steps.size, { script.place with used := 0 }) :: script.blocks }
    pure (some (.block 0))
  | some '\x7d' => do
    match script.blocks with
    | [] => refuse "unexpected \x60\x7d'"
    | (index, _) :: blocks => do
      if step.first.isSome then refuse "\x60\x7d' doesn't want any addresses"
      finish
      modify fun script => { script with
        blocks
        steps := script.steps.modify index fun step =>
          { step with command := .block script.steps.size } }
      pure (some .nothing)
  | some ':' => do
    if step.first.isSome then refuse ": doesn't want any addresses"
    let name ← label
    if name = [] then refuse "\":\" lacks a label"
    modify fun script => { script with labels := (name, script.steps.size) :: script.labels }
    pure (some .nothing)
  | some 'v' => do
    let version ← label
    if isLater version then refuse "expected newer version of sed"
    pure none
  | some 'a' => do pure (some (.append (← commandText)))
  | some 'i' => do pure (some (.insert (← commandText)))
  | some 'c' => do pure (some (.change (← commandText)))
  | some 'e' => do
    if script.confined then refuse "e/r/w commands disabled in sandbox mode"
    match (← nextFilled) with
    | none | some '\n' => pure (some (.run []))
    | c => do
      back c
      let text ← textBehind []
      pure (some (.run text.dropLast))
  | some 'b' => do pure (some (.jump (← label)))
  | some 't' => do pure (some (.jumpIfChanged (← label)))
  | some 'T' => do pure (some (.jumpUnlessChanged (← label)))
  | some 's' => do pure (some (← substitution))
  | some 'y' => do pure (some (← translation))
  | some 'r' => do pure (some (.readFile (← fileName)))
  | some 'R' => do pure (some (.readLine (← fileName)))
  | some 'w' => do pure (some (.write (← fileName)))
  | some 'W' => do pure (some (.writeFirst (← fileName)))
  | some 'q' | some 'Q' => do
    if step.second.isSome then refuse "command only uses one address"
    let status := ((← argument?).getD 0) % 256
    plain (if letter = some 'q' then .quit status else .quitSilently status)
  | some 'l' => do
    let width ← argument?
    plain (.list width)
  | some 'L' => do
    let _ ← argument?
    plain (.broken 'L')
  | some '=' => plain .number
  | some 'd' => plain .delete
  | some 'D' => plain .deleteFirst
  | some 'F' => plain .showFile
  | some 'g' => plain .recall
  | some 'G' => plain .recallMore
  | some 'h' => plain .keep
  | some 'H' => plain .keepMore
  | some 'n' => plain .next
  | some 'N' => plain .nextMore
  | some 'p' => plain .print
  | some 'P' => plain .printFirst
  | some 'x' => plain .exchange
  | some 'z' => plain .empty
  | some c => refuse ("unknown command: \x60" ++ String.ofList [c] ++ "'")

def addresses : Reading (Step × Option Char) := do
  let start ← next
  match (← address? start) with
  | none => pure ({}, start)
  | some first => do
    let isRelative : Bool := match first with
      | .further _ | .multiple _ => true
      | _ => false
    if isRelative then refuse "invalid usage of +N or ~N as first address"
    let c ← nextFilled
    let (second, c) ← if c = some ',' then do
        match (← address? (← nextFilled)) with
        | none => refuse "unexpected \x60,'"
        | some second => do pure (some second, ← nextFilled)
      else pure (none, c)
    let isZero : Bool := match first, second with
      | .line 0, some (.fitting _) => false
      | .line 0, _ => true
      | _, _ => false
    if isZero then refuse "invalid usage of line address 0"
    pure ({ first := some first, second }, c)

def commands : Nat → Reading Unit
  | 0 => pure ()
  | count + 1 => do
    let _ ← takeWhile fun c => isSpace c || c = ';'
    if (← get).rest ≠ [] then do
      let (step, c) ← addresses
      let (negated, c) ← if c = some '!' then do
          let c ← nextFilled
          if c = some '!' then refuse "multiple \x60!'s"
          pure (true, c)
        else pure (false, c)
      match (← command? step c) with
      | none => pure ()
      | some command =>
        modify fun script => { script with
          steps := script.steps.push { step with negated, command } }
      commands count

def extendText (text : List Char) : Reading Unit :=
  modify fun script => { script with
    steps := script.steps.modify (script.steps.size - 1) fun step =>
      { step with command := match step.command with
          | .append _ => .append text
          | .insert _ => .insert text
          | .change _ => .change text
          | command => command } }

def piece (origin : Origin) (text : List Char) : Reading Unit := do
  let line := match origin with
    | .expression _ => 0
    | .file _ => 1
  let script ← get
  set { script with
    rest := text, place := { origin, line, used := 0 }, pieces := script.pieces + 1
    pending := none }
  match script.pending with
  | some start => do extendText (← textBehind start)
  | none => pure ()
  commands (text.length + 1)

end Reading

def Script.check (script : Script) : Except ScriptFault Script :=
  match script.blocks with
  | (_, place) :: _ => .error (.at place "unmatched \x60\x7b'".toList)
  | [] =>
    let labels := script.steps.toList.filterMap fun step =>
      match step.command with
      | .jump label | .jumpIfChanged label | .jumpUnlessChanged label => some label
      | _ => none
    match labels.find? fun label => label ≠ [] && (script.labels.lookup label).isNone with
    | some label => .error (.noLabel label)
    | none => .ok script

end HouseStyle.Shell.Editing
