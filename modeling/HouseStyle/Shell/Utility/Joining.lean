import HouseStyle.Shell.Utility.Merging

namespace HouseStyle.Shell.Exec

inductive JoinField where
  | common
  | ofFile (isFirst : Bool) (index : Nat)
  deriving DecidableEq, Repr

structure Joining where
  firstField : Option Nat := none
  secondField : Option Nat := none
  separator : Option Char := none
  filler : Option (List Char) := none
  layout : List JoinField := []
  uniform : Bool := false
  firstUnpaired : Bool := false
  secondUnpaired : Bool := false
  paired : Bool := true
  folded : Bool := false
  header : Bool := false
  check : OrderCheck := .ifNeeded
  lineEnd : Char := '\n'

structure JoinLine where
  number : Nat
  text : List Char
  fields : List (List Char)

structure JoinSource where
  path : List Char
  current : Option JoinLine := none
  rest : List JoinLine
  previous : Option JoinLine := none
  warned : Bool := false

structure JoinState where
  left : JoinSource
  right : JoinSource
  unpaired : Bool := false
  counts : Option (Nat × Nat) := none

namespace Joining

abbrev Work := ExceptT Unit (StateT JoinState Exec)

def blankFields : Nat → List Char → List (List Char)
  | 0, _ => []
  | steps + 1, text =>
    let isBlank (c : Char) : Bool := c = ' ' || c = '\t' || c = '\n'
    let field := text.takeWhile (!isBlank ·)
    match text.drop field.length with
    | [] => [field]
    | rest => field :: blankFields steps (rest.dropWhile isBlank)

def fieldsOf (joining : Joining) (line : List Char) : List (List Char) :=
  if line = [] then []
  else match joining.separator with
    | some separator => if separator = '\n' then [line] else Text.splitAt separator line
    | none =>
      match line.dropWhile fun c => c = ' ' || c = '\t' || c = '\n' with
      | [] => []
      | text => blankFields (text.length + 1) text

def linesIn (joining : Joining) (text : List Char) : List JoinLine :=
  (recordsOf joining.lineEnd text).zipIdx.map fun (line, index) =>
    { number := index + 1, text := line, fields := joining.fieldsOf line }

def keyIndex (joining : Joining) (isFirst : Bool) : Nat :=
  (if isFirst then joining.firstField else joining.secondField).getD 0

def key (joining : Joining) (isFirst : Bool) (line : JoinLine) : List Char :=
  let field := line.fields.getD (joining.keyIndex isFirst) []
  if joining.folded then field.map Char.toUpper else field

/-! ## Output -/

def shownField (joining : Joining) (line : Option JoinLine) (index : Nat) : List Char :=
  match (line.map (·.fields)).getD [] |>.getD index [] with
  | [] => joining.filler.getD []
  | field => field

def otherFields (joining : Joining) (isFirst : Bool) (count : Option Nat)
    (line : Option JoinLine) : List (List Char) :=
  let key := joining.keyIndex isFirst
  let count := count.getD ((line.map (·.fields.length)).getD 0)
  ((List.range count).filter (· ≠ key)).map (joining.shownField line)

def joined (joining : Joining) (counts : Option (Nat × Nat)) (left right : Option JoinLine) :
    List Char :=
  let common := match left with
    | some _ => joining.shownField left (joining.keyIndex true)
    | none => joining.shownField right (joining.keyIndex false)
  let fields := if joining.layout ≠ [] then joining.layout.map fun field =>
      match field with
      | .common => common
      | .ofFile isFirst index => joining.shownField (if isFirst then left else right) index
    else common :: joining.otherFields true (counts.map (·.1)) left ++
      joining.otherFields false (counts.map (·.2)) right
  [joining.separator.getD ' '].intercalate fields ++ [joining.lineEnd]

def putJoined (joining : Joining) (left right : Option JoinLine) : Work Unit := do
  put (joining.joined (← get).counts left right)

/-! ## Input -/

def source (isFirst : Bool) : Work JoinSource := do
  let state ← get
  pure (if isFirst then state.left else state.right)

def setSource (isFirst : Bool) (source : JoinSource) : Work Unit :=
  modify fun state =>
    if isFirst then { state with left := source } else { state with right := source }

def checkOrder (joining : Joining) (isFirst : Bool) (earlier later : JoinLine) : Work Unit := do
  let state ← get
  let source ← source isFirst
  let isDue := match joining.check with
    | .always => true
    | .ifNeeded => state.unpaired
    | .never => false
  let order := Order.text (joining.key isFirst earlier) (joining.key isFirst later)
  if isDue && !source.warned && order = .gt then do
    programError (source.path ++ [':'] ++ decimal later.number ++ ": is not sorted: ".toList ++
      later.text)
    if joining.check = .always then throw ()
    setSource isFirst { source with warned := true }

def advance (joining : Joining) (isFirst : Bool) : Work Unit := do
  let found ← source isFirst
  match found.rest with
  | [] => setSource isFirst { found with current := none }
  | line :: rest => do
    match found.previous with
    | some earlier => joining.checkOrder isFirst earlier line
    | none => pure ()
    let found ← source isFirst
    setSource isFirst { found with current := some line, rest, previous := some line }

def takeGroup (joining : Joining) (isFirst : Bool) (key : List Char) :
    Nat → List JoinLine → Work (List JoinLine)
  | 0, group => pure group.reverse
  | count + 1, group => do
    match (← source isFirst).current with
    | some line =>
      if joining.key isFirst line = key then do
        joining.advance isFirst
        joining.takeGroup isFirst key count (line :: group)
      else pure group.reverse
    | none => pure group.reverse

def joinLines (joining : Joining) (size : Nat) : Nat → Work Unit
  | 0 => pure ()
  | rounds + 1 => do
    let state ← get
    match state.left.current, state.right.current with
    | some left, some right => do
      let leftKey := joining.key true left
      let rightKey := joining.key false right
      match Order.text leftKey rightKey with
      | .lt => do
        if joining.firstUnpaired then joining.putJoined (some left) none
        joining.advance true
        modify fun state => { state with unpaired := true }
        joining.joinLines size rounds
      | .gt => do
        if joining.secondUnpaired then joining.putJoined none (some right)
        joining.advance false
        modify fun state => { state with unpaired := true }
        joining.joinLines size rounds
      | .eq => do
        let lefts ← joining.takeGroup true leftKey size []
        let rights ← joining.takeGroup false leftKey size []
        if joining.paired then
          lefts.forM fun left => rights.forM fun right => joining.putJoined (some left) (some right)
        joining.joinLines size rounds
    | _, _ => pure ()

def takeRest (joining : Joining) (isFirst shows : Bool) : Nat → Work Unit
  | 0 => pure ()
  | count + 1 => do
    let found ← source isFirst
    match found.current with
    | none => pure ()
    | some line => do
      if shows then
        if isFirst then joining.putJoined (some line) none else joining.putJoined none (some line)
      if found.warned && !shows then pure ()
      else do
        joining.advance isFirst
        joining.takeRest isFirst shows count

def joinHeader (joining : Joining) : Work Unit := do
  let state ← get
  if state.left.current.isSome || state.right.current.isSome then do
    joining.putJoined state.left.current state.right.current
    modify fun state => { state with
      left := { state.left with previous := none }
      right := { state.right with previous := none } }
    joining.advance true
    joining.advance false

def run (joining : Joining) : Work Unit := do
  let start ← get
  let size := start.left.rest.length + start.right.rest.length + 2
  joining.advance true
  joining.advance false
  let state ← get
  if joining.uniform then
    let count (line : Option JoinLine) : Nat := (line.map (·.fields.length)).getD 0
    modify fun state => { state with
      counts := some (count state.left.current, count state.right.current) }
  if joining.header then joining.joinHeader
  joining.joinLines size (size + state.left.rest.length)
  let state ← get
  let checks := joining.check ≠ .never && !(state.left.warned && state.right.warned)
  let rest (isFirst shows : Bool) : Work Unit := do
    let other ← source (!isFirst)
    let found ← source isFirst
    if (shows || checks) && found.current.isSome then do
      if other.current.isSome then modify fun state => { state with unpaired := true }
      joining.takeRest isFirst shows size
  rest true joining.firstUnpaired
  rest false joining.secondUnpaired

end Joining

/-! ## Options -/

def fieldNumber (word : List Char) : Exec (Option Nat) := do
  match count? word with
  | some (number + 1) => pure (some number)
  | _ => do
    programError ("invalid field number: ".toList ++ quoted word)
    pure none

def joinField (word : List Char) : Exec (Option JoinField) := do
  let refuse (what : String) : Exec (Option JoinField) := do
    programError (what.toList ++ quoted word)
    pure none
  match word with
  | ['0'] => pure (some .common)
  | '0' :: _ => refuse "invalid field specifier: "
  | file :: rest =>
    if file = '1' || file = '2' then
      match rest with
      | '.' :: number => do pure ((← fieldNumber number).map (JoinField.ofFile (file = '1')))
      | _ => refuse "invalid field specifier: "
    else refuse "invalid file number in field spec: "
  | [] => refuse "invalid file number in field spec: "

def joinFields : List (List Char) → Exec (Option (List JoinField))
  | [] => pure (some [])
  | word :: rest => do
    match (← joinField word) with
    | none => pure none
    | some field => do pure ((← joinFields rest).map (field :: ·))

def fieldWords (list : List Char) : List (List Char) :=
  Text.splitAt ',' (list.map fun c => if c = ' ' || c = '\t' then ',' else c)

def joinOptions : List (Char × List Char) → Joining → Exec (Except Nat Joining)
  | [], joining => pure (.ok joining)
  | (letter, word) :: rest, joining => do
    let refuse (message : List Char) : Exec (Except Nat Joining) := do
      programError message
      pure (.error 1)
    let setFields (first second : Bool) : Exec (Except Nat Joining) := do
      match (← fieldNumber word) with
      | none => pure (.error 1)
      | some number =>
        let others := (if first then joining.firstField.toList else []) ++
          (if second then joining.secondField.toList else [])
        match others.filter (· ≠ number) with
        | other :: _ =>
          refuse ("incompatible join fields ".toList ++ decimal other ++ [',', ' '] ++
            decimal number)
        | [] => joinOptions rest { joining with
            firstField := if first then some number else joining.firstField
            secondField := if second then some number else joining.secondField }
    match letter with
    | '1' => setFields true false
    | '2' => setFields false true
    | 'j' => setFields true true
    | 'a' | 'v' =>
      let joining := { joining with paired := joining.paired && letter = 'a' }
      match count? word with
      | some 1 => joinOptions rest { joining with firstUnpaired := true }
      | some 2 => joinOptions rest { joining with secondUnpaired := true }
      | _ => refuse ("invalid field number: ".toList ++ quoted word)
    | 'e' =>
      if joining.filler.any (· ≠ word) then
        refuse "conflicting empty-field replacement strings".toList
      else joinOptions rest { joining with filler := some word }
    | 'o' =>
      if word = "auto".toList then joinOptions rest { joining with uniform := true }
      else do
        match (← joinFields (fieldWords word)) with
        | none => pure (.error 1)
        | some fields => joinOptions rest { joining with layout := joining.layout ++ fields }
    | 't' =>
      let separator? := match word with
        | [] => some '\n'
        | [c] => some c
        | ['\\', '0'] => some '\x00'
        | _ => none
      match separator? with
      | none => refuse ("multi-character tab ".toList ++ quoted word)
      | some separator =>
        if joining.separator.any (· ≠ separator) then refuse "incompatible tabs".toList
        else joinOptions rest { joining with separator := some separator }
    | 'i' => joinOptions rest { joining with folded := true }
    | 'η' => joinOptions rest { joining with header := true }
    | 'z' => joinOptions rest { joining with lineEnd := '\x00' }
    | 'χ' => joinOptions rest { joining with check := .always }
    | 'ν' => joinOptions rest { joining with check := .never }
    | _ => joinOptions rest joining

def join (words : List (List Char)) : Exec Nat :=
  let forms := OptionForm.valued "12aejotv" ++ OptionForm.named [('i', "ignore-case"),
    ('z', "zero-terminated"), ('η', "header")] ++ OrderCheck.forms
  withOptions 1 .mixed forms words (joinOptions · {}) fun joining arguments => do
    let extra := if joining.layout = [] then 0 else arguments.operands.length - 2
    match (← joinFields ((arguments.operands.take extra).flatMap fieldWords)) with
    | none => pure 1
    | some fields =>
      let joining := { joining with layout := joining.layout ++ fields }
      let kept := { arguments with operands := arguments.operands.drop extra }
      withTwoOperands kept fun firstPath secondPath => do
        if firstPath = ['-'] && secondPath = ['-'] then do
          programError "both files cannot be standard input".toList
          pure 1
        else
          let faults ← [firstPath, secondPath].filterMapM fun path => do
            match (← opens path) with
            | .ok () => pure none
            | .error reason => pure (some (path, reason))
          match faults with
          | (path, reason) :: _ => do
            pathError path reason
            pure 1
          | [] => do
            match (← readPath firstPath), (← readPath secondPath) with
            | .ok firstText, .ok secondText => do
              let (result, state) ← joining.run.run.run
                { left := { path := firstPath, rest := joining.linesIn firstText }
                  right := { path := secondPath, rest := joining.linesIn secondText } }
              match result with
              | .error () => pure 1
              | .ok () =>
                if state.left.warned || state.right.warned then do
                  programError "input is not in sorted order".toList
                  pure 1
                else pure 0
            | .error reason, _ | _, .error reason => do
              programError ("read error: ".toList ++ reason.toList)
              pure 1

end HouseStyle.Shell.Exec
