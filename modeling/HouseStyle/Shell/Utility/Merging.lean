import HouseStyle.Shell.Utility.Basic
import HouseStyle.Shell.Utility.Order

namespace HouseStyle.Shell.Exec

/-! ## Lines in order -/

/-- The separators that a list stands for. A separator can be nothing. There are none if the list
ends within an escape. -/
def separators? : List Char → Option (List (List Char))
  | [] => some []
  | ['\\'] => none
  | '\\' :: c :: rest =>
    let meant := match c with
      | '0' => []
      | 'b' => ['\x08']
      | 'f' => ['\x0c']
      | 'n' => ['\n']
      | 'r' => ['\r']
      | 't' => ['\t']
      | 'v' => ['\x0b']
      | c => [c]
    (separators? rest).map (meant :: ·)
  | c :: rest => (separators? rest).map ([c] :: ·)

def withSeparators (separators texts : List (List Char)) : List Char :=
  texts.zipIdx.flatMap fun (text, index) =>
    (if index = 0 then [] else separators.getD ((index - 1) % separators.length) []) ++ text

/-- Take a line from each file in turn. A file is known by the number of what is read, since several
can read the same. Gives the lines, what is left, and whether there was one. -/
def takeLines : List Nat → List (List (List Char)) → List (List Char) × List (List (List Char)) × Bool
  | [], sources => ([], sources, false)
  | number :: rest, sources =>
    match sources.getD number [] with
    | [] =>
      let (lines, sources, found) := takeLines rest sources
      ([] :: lines, sources, found)
    | line :: left =>
      let (lines, sources, _) := takeLines rest (sources.set number left)
      (line :: lines, sources, true)

def sideBySide (separators : List (List Char)) (lineEnd : Char) (files : List Nat) :
    Nat → List (List (List Char)) → List (List Char) → List (List Char)
  | 0, _, done => done.reverse
  | rounds + 1, sources, done =>
    match takeLines files sources with
    | (_, _, false) => done.reverse
    | (lines, sources, true) =>
      sideBySide separators lineEnd files rounds sources
        ((withSeparators separators lines ++ [lineEnd]) :: done)

def opens (path : List Char) : Exec (Except String Unit) := do
  if path = ['-'] then pure (.ok ())
  else match (← locate path) with
    | .ok _ => pure (.ok ())
    | .error error => pure (.error error.reason)

def pasteLines (separators : List (List Char)) (lineEnd : Char) (paths : List (List Char)) :
    Exec Nat := do
  let faults ← paths.filterMapM fun path => do
    match (← opens path) with
    | .ok () => pure none
    | .error reason => pure (some (path, reason))
  match faults with
  | (path, reason) :: _ => do
    pathError path reason
    pure 1
  | [] => do
    let contents ← paths.zipIdx.mapM fun (path, index) => do
      if path = ['-'] && paths.idxOf path ≠ index then pure (.ok [])
      else readPath path
    let sources := contents.map fun content => recordsOf lineEnd (content.toOption.getD [])
    let files := paths.zipIdx.map fun (path, index) =>
      if path = ['-'] then paths.idxOf path else index
    let rounds := sources.foldl (fun total source => total + source.length) 1
    (paths.zip contents).forM fun (path, content) => do
      match content with
      | .ok _ => pure ()
      | .error reason => pathError path reason
    put (sideBySide separators lineEnd files rounds sources []).flatten
    pure (if contents.all fun content => content.toOption.isSome then 0 else 1)

def pasteFiles (separators : List (List Char)) (lineEnd : Char) (paths : List (List Char)) :
    Exec Nat := do
  let results ← paths.mapM fun path => do
    match (← opens path) with
    | .error reason => do
      pathError path reason
      pure false
    | .ok () => do
      match (← readPath path) with
      | .ok content => do
        put (withSeparators separators (recordsOf lineEnd content) ++ [lineEnd])
        pure true
      | .error reason => do
        put [lineEnd]
        pathError path reason
        pure false
  pure (if results.all id then 0 else 1)

def paste (words : List (List Char)) : Exec Nat :=
  let forms := OptionForm.named [('s', "serial"), ('z', "zero-terminated")] ++
    OptionForm.namedValued [('d', "delimiters")]
  withArguments 1 forms words fun arguments => do
    let list := (arguments.value? 'd').getD ['\t']
    let paths := if arguments.operands = [] then [['-']] else arguments.operands
    let lineEnd := if arguments.has 'z' then '\x00' else '\n'
    match separators? list with
    | none => do
      programError ("delimiter list ends with an unescaped backslash: ".toList ++ list)
      pure 1
    | some separators =>
      let separators := if separators = [] then [[]] else separators
      if arguments.has 's' then pasteFiles separators lineEnd paths
      else pasteLines separators lineEnd paths

/-! ## Lines in common -/

inductive OrderCheck where
  | ifNeeded
  | always
  | never
  deriving DecidableEq, Repr

namespace OrderCheck

def ofArguments (arguments : Arguments) : OrderCheck :=
  match arguments.last? "χν" with
  | some 'χ' => .always
  | some _ => .never
  | none => .ifNeeded

def forms : List OptionForm :=
  OptionForm.named [('χ', "check-order"), ('ν', "nocheck-order")]

end OrderCheck

structure Commons where
  first : Bool
  second : Bool
  both : Bool
  separator : List Char
  check : OrderCheck
  lineEnd : Char

structure LineSource where
  rest : List (List Char)
  taken : List (List Char) := []
  warned : Bool := false

structure CommonState where
  left : LineSource
  right : LineSource
  unpaired : Bool := false
  counts : Nat × Nat × Nat := (0, 0, 0)

abbrev Comparing := ExceptT Unit (StateT CommonState Exec)

namespace Commons

def checkOrder (commons : Commons) (isFirst : Bool) : Comparing Unit := do
  let state ← get
  let source := if isFirst then state.left else state.right
  match source.taken with
  | later :: earlier :: _ =>
    let isDue := match commons.check with
      | .always => true
      | .ifNeeded => state.unpaired
      | .never => false
    if isDue && !source.warned && Order.text earlier later = .gt then do
      programError (if isFirst then "file 1 is not in sorted order".toList
        else "file 2 is not in sorted order".toList)
      if commons.check = .always then throw ()
      let source := { source with warned := true }
      set (if isFirst then { state with left := source } else { state with right := source })
  | _ => pure ()

def advance (commons : Commons) (isFirst : Bool) : Comparing Unit := do
  modify fun state =>
    let source := if isFirst then state.left else state.right
    let source := match source.rest with
      | _ :: next :: rest =>
        { source with rest := next :: rest, taken := next :: source.taken.take 1 }
      | _ => { source with rest := [] }
    if isFirst then { state with left := source } else { state with right := source }
  commons.checkOrder isFirst

def putLine (commons : Commons) (columns : Nat) (line : List Char) : Comparing Unit :=
  put ((List.replicate columns commons.separator).flatten ++ line ++ [commons.lineEnd])

def compareLines (commons : Commons) : Nat → Comparing Unit
  | 0 => pure ()
  | rounds + 1 => do
    let state ← get
    let order? : Option Ordering := match state.left.rest, state.right.rest with
      | [], [] => none
      | _, [] => some .lt
      | [], _ => some .gt
      | left :: _, right :: _ => some (Order.text left right)
    let (first, second, both) := state.counts
    let columns (shown : List Bool) : Nat := (shown.filter id).length
    match order? with
    | none => pure ()
    | some .eq => do
      modify fun state => { state with counts := (first, second, both + 1) }
      if commons.both then
        commons.putLine (columns [commons.first, commons.second]) (state.left.rest.headD [])
      commons.advance true
      commons.advance false
      commons.compareLines rounds
    | some .lt => do
      modify fun state => { state with unpaired := true, counts := (first + 1, second, both) }
      if commons.first then commons.putLine 0 (state.left.rest.headD [])
      commons.advance true
      commons.compareLines rounds
    | some .gt => do
      modify fun state => { state with unpaired := true, counts := (first, second + 1, both) }
      if commons.second then commons.putLine (columns [commons.first]) (state.right.rest.headD [])
      commons.advance false
      commons.compareLines rounds

end Commons

def withTwoOperands (arguments : Arguments) (run : List Char → List Char → Exec Nat) :
    Exec Nat := do
  match arguments.operands with
  | [] => missingOperand
  | [only] => misuse ("missing operand after ".toList ++ quoted only)
  | [first, second] => run first second
  | _ :: _ :: extra :: _ => misuse ("extra operand ".toList ++ quoted extra)

def comm (words : List (List Char)) : Exec Nat :=
  let forms := OptionForm.letters "123" ++ OptionForm.named [('z', "zero-terminated"),
    ('τ', "total")] ++ OrderCheck.forms ++ OptionForm.namedValued [('ο', "output-delimiter")]
  withArguments 1 forms words fun arguments => do
    let given := (arguments.options.filter (·.1 = 'ο')).map (·.2)
    if given.eraseDups.length > 1 then do
      programError "multiple output delimiters specified".toList
      pure 1
    else withTwoOperands arguments fun firstPath secondPath => do
      let commons : Commons :=
        { first := !arguments.has '1'
          second := !arguments.has '2'
          both := !arguments.has '3'
          separator := match given.head? with
            | none => ['\t']
            | some [] => ['\x00']
            | some text => text
          check := OrderCheck.ofArguments arguments
          lineEnd := if arguments.has 'z' then '\x00' else '\n' }
      match (← readPath firstPath) with
      | .error reason => do
        pathError firstPath reason
        pure 1
      | .ok firstText => do
        match (← readPath secondPath) with
        | .error reason => do
          pathError secondPath reason
          pure 1
        | .ok secondText => do
          let left := recordsOf commons.lineEnd firstText
          let right := recordsOf commons.lineEnd secondText
          let (result, state) ←
            (commons.compareLines (left.length + right.length + 1)).run.run
              { left := { rest := left, taken := left.take 1 }
                right := { rest := right, taken := right.take 1 } }
          match result with
          | .error () => pure 1
          | .ok () => do
            if arguments.has 'τ' then
              let (first, second, both) := state.counts
              put (commons.separator.intercalate
                  [decimal first, decimal second, decimal both, "total".toList] ++
                [commons.lineEnd])
            if state.left.warned || state.right.warned then do
              programError "input is not in sorted order".toList
              pure 1
            else pure 0

end HouseStyle.Shell.Exec
