import HouseStyle.Shell.Utility.Stream

namespace HouseStyle.Shell.Exec

def misuseNamed (message : List Char) : Exec Nat := do
  programError message
  programError ("Try '".toList ++ (← process).name ++ " --help' for more information.".toList)
  pure 2

structure Comparison where
  all : Bool
  silent : Bool
  shown : Bool
  most : Option Nat
  skipped : Nat × Nat
  lost : Bool := false

def octalColumn (c : Char) : List Char :=
  let digits := Nat.toDigits 8 c.toNat
  List.replicate (3 - digits.length) ' ' ++ digits

def seen (c : Char) : List Char :=
  if c = '\n' then ['^', 'J'] else if c = '\t' then ['^', 'I'] else visible c

def differences : Nat → List Char → List Char → List (Nat × Char × Char) →
    List (Nat × Char × Char)
  | place, left :: lefts, right :: rights, found =>
    differences (place + 1) lefts rights
      (if left = right then found else (place, left, right) :: found)
  | _, _, _, found => found.reverse

def differenceLines (comparison : Comparison) (width : Nat) (found : List (Nat × Char × Char)) :
    List Char :=
  found.flatMap fun (place, left, right) =>
    let number := decimal place
    let padded (text : List Char) : List Char := text ++ List.replicate (4 - text.length) ' '
    List.replicate (width - number.length) ' ' ++ number ++ [' '] ++ octalColumn left ++ [' '] ++
      (if comparison.shown then padded (seen left) ++ [' '] else []) ++ octalColumn right ++
      (if comparison.shown then ' ' :: seen right else []) ++ ['\n']

def tellEnd (comparison : Comparison) (path text : List Char) : Exec Unit := do
  let lines := text.count '\n'
  let place := if text = [] then " which is empty".toList
    else " after byte ".toList ++ decimal text.length ++
      (if comparison.all || comparison.lost then []
        else if text.getLast? = some '\n' then ", line ".toList ++ decimal lines
        else ", in line ".toList ++ decimal (lines + 1))
  programError ("EOF on ".toList ++ path ++ place)

def compareTexts (comparison : Comparison) (leftPath rightPath left right : List Char) :
    Exec Nat := do
  let part (text : List Char) (skipped : Nat) : List Char :=
    let rest := text.drop skipped
    comparison.most.elim rest rest.take
  let leftText := part left comparison.skipped.1
  let rightText := part right comparison.skipped.2
  let found := differences 1 leftText rightText []
  let (shorter, text) := if leftText.length < rightText.length then (leftPath, leftText)
    else (rightPath, rightText)
  let isCut := leftText.length ≠ rightText.length
  if comparison.silent || (comparison.lost && found ≠ []) then
    pure (if found = [] && !isCut then 0 else 1)
  else if comparison.all then do
    let width := (decimal (Nat.min leftText.length rightText.length)).length
    if isCut then tellEnd comparison shorter text
    put (differenceLines comparison width found)
    pure (if found = [] && !isCut then 0 else 1)
  else match found with
    | (place, one, other) :: _ => do
      let line := (leftText.take (place - 1)).count '\n' + 1
      put (leftPath ++ [' '] ++ rightPath ++ " differ: ".toList ++
        (if comparison.shown then "byte ".toList else "char ".toList) ++ decimal place ++
        ", line ".toList ++ decimal line ++
        (if comparison.shown then " is ".toList ++ octalColumn one ++ [' '] ++ seen one ++ [' '] ++
          octalColumn other ++ [' '] ++ seen other else []) ++ ['\n'])
      pure 1
    | [] =>
      if isCut then do
        tellEnd comparison shorter text
        pure 1
      else pure 0

def amount? (word : List Char) : Option Nat :=
  if word.head?.any Char.isDigit then (amountOf "kKMGTPEZY" word).toOption else none

def skips? (word : List Char) : Option (Nat × Nat) :=
  match Text.splitAt ':' word with
  | [both] => (amount? both).map fun count => (count, count)
  | [left, right] => do pure (← amount? left, ← amount? right)
  | _ => none

def compareOptions : List (Char × List Char) → Comparison → Exec (Except Nat Comparison)
  | [], comparison => pure (.ok comparison)
  | (letter, word) :: rest, comparison => do
    let incompatible : Exec (Except Nat Comparison) := do
      pure (.error (← misuseNamed "options -l and -s are incompatible".toList))
    match letter with
    | 'b' => compareOptions rest { comparison with shown := true }
    | 'l' =>
      if comparison.silent then incompatible
      else compareOptions rest { comparison with all := true }
    | 's' =>
      if comparison.all then incompatible
      else compareOptions rest { comparison with silent := true }
    | 'n' =>
      match amount? word with
      | some count => compareOptions rest { comparison with
          most := some (comparison.most.elim count (Nat.min count)) }
      | none => do
        pure (.error (← misuseNamed ("invalid --bytes value ".toList ++ quoted word)))
    | _ =>
      match skips? word with
      | some (left, right) => compareOptions rest { comparison with
          skipped := (Nat.max left comparison.skipped.1, Nat.max right comparison.skipped.2) }
      | none => do
        pure (.error (← misuseNamed ("invalid --ignore-initial value ".toList ++ quoted word)))

def cmp (words : List (List Char)) : Exec Nat := do
  let forms := OptionForm.named [('b', "print-bytes"), ('l', "verbose"), ('s', "quiet"),
      ('s', "silent")] ++
    OptionForm.namedValued [('i', "ignore-initial"), ('n', "bytes")]
  let arguments := Arguments.parse .mixed forms words
  let start : Comparison :=
    { all := false, silent := false, shown := false, most := none, skipped := (0, 0) }
  match (← compareOptions arguments.options start), arguments.fault with
  | .error status, _ => pure status
  | .ok _, some fault => misuseNamed fault
  | .ok comparison, none => do
    match arguments.operands with
    | [] => do misuseNamed ("missing operand after ".toList ++ quoted (← process).name)
    | leftPath :: rest => do
      let rightPath := rest.headD ['-']
      let amounts := (rest.drop 1).map amount?
      match (rest.drop 3).head?, (rest.drop 1).find? fun word => (amount? word).isNone with
      | some extra, _ => misuseNamed ("extra operand ".toList ++ quoted extra)
      | none, some word =>
        misuseNamed ("invalid --ignore-initial value ".toList ++ quoted word)
      | none, none => do
        let skip (index : Nat) (old : Nat) : Nat :=
          Nat.max old ((amounts[index]?.join).getD 0)
        let left := skip 0 comparison.skipped.1
        let right := if amounts.length < 2 then
          Nat.max comparison.skipped.2 (if amounts = [] then 0 else left)
          else skip 1 comparison.skipped.2
        let comparison := { comparison with
          skipped := (left, right)
          lost := (← isOutputLost) }
        let refuse (path : List Char) (reason : String) : Exec Nat := do
          if !comparison.silent then pathError path reason
          pure 2
        let isSame ← isSamePath leftPath rightPath
        match (← readPath leftPath) with
        | .error reason => refuse leftPath reason
        | .ok leftText => do
          let rightText ← if isSame then pure (.ok leftText) else readPath rightPath
          match rightText with
          | .error reason => refuse rightPath reason
          | .ok rightText =>
            if isSame && left = right then pure 0
            else compareTexts comparison leftPath rightPath leftText rightText
where
  isOutputLost : Exec Bool := do
    match (← streamChannel? 1) with
    | none => pure false
    | some number =>
      match (← channel? number) with
      | some .null => pure true
      | _ => pure false
  isSamePath (left right : List Char) : Exec Bool := do
    if left = right then pure true
    else do
      match (← filePlace? left), (← filePlace? right) with
      | some left, some right => pure (left = right && left ≠ [])
      | _, _ => pure false

end HouseStyle.Shell.Exec
