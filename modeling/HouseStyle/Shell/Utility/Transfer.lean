import HouseStyle.Shell.Utility.Backup

namespace HouseStyle.Shell.Exec

inductive Following where
  | never
  | operands
  | always
  deriving DecidableEq, Repr

inductive Overwriting where
  | freely
  | asking
  | never
  deriving DecidableEq, Repr

structure Transfer where
  moving : Bool := false
  recursive : Bool := false
  hardLinks : Bool := false
  symbolicLinks : Bool := false
  following : Following := .always
  removing : Bool := false
  force : Bool := false
  overwriting : Overwriting := .freely
  updating : Bool := false
  verbose : Bool := false
  contents : Bool := true
  keepsMode : Bool := false
  keepsTime : Bool := false
  keepsLinks : Bool := false
  attributesOnly : Bool := false
  backup : Backup := {}

def Transfer.backsUp (transfer : Transfer) : Bool :=
  transfer.backup.keeping ≠ .nothing

inductive FileKey where
  | place (place : Place)
  | twins (number : Nat)
  deriving DecidableEq, Repr

def keyOf (place : Place) : Exec FileKey := do
  pure (match ((← get).detail place).twins with
    | some number => .twins number
    | none => .place place)

structure Progress where
  several : Bool := false
  sources : List Place := []
  targets : List Place := []
  copies : List (FileKey × Place) := []
  hasDirectory : Bool := false
  intoItself : Bool := false

abbrev Transferring := StateT Progress Exec

structure Spot where
  path : List Char
  place : Place
  entry : Entry

def isLinkEntry : Entry → Bool
  | .link _ => true
  | _ => false

def isRegular : Entry → Bool
  | .file _ | .program _ => true
  | _ => false

inductive Decision where
  | go
  | refuse
  | done
  deriving DecidableEq, Repr

def Decision.ofBool (isGood : Bool) : Decision :=
  if isGood then .go else .refuse

def decideNames (transfer : Transfer) (source target : Spot) (isSameName isSame : Bool) :
    Exec Decision := do
  let isTwin := ((← get).twins target.place).length > 1
  let fromLink := isLinkEntry source.entry
  let toLink := isLinkEntry target.entry
  let replaces := transfer.moving || transfer.removing
  if transfer.backsUp then
    pure (.ofBool (if isSame then !isSameName
      else transfer.moving || transfer.following = .never || !fromLink || toLink))
  else if replaces && toLink then pure .go
  else if replaces && isSame && isTwin && !isSameName then pure (.ofBool (!transfer.moving))
  else if !fromLink && !toLink && !isSame then pure .go
  else if transfer.moving && fromLink && isTwin then
    match (← locateIn true source.path), (← locateIn false target.path) with
    | .ok left, .ok right => pure (.ofBool (left ≠ right))
    | _, _ => pure .go
  else if transfer.symbolicLinks && toLink then pure .go
  else if transfer.following = .never then
    match (← entryAt true source.path), (← entryAt true target.path) with
    | .ok (left, _), .ok (right, _) => do
      if !(← isSameFile left right) then pure .go
      else pure (if !transfer.hardLinks then .refuse else if toLink then .go else .done)
    | _, _ => pure .go
  else pure .refuse

def decideSame (transfer : Transfer) (source target : Spot) : Exec Decision := do
  let isSame ← isSameFile source.place target.place
  let isName ← isSameName source.path target.path
  if isSame && transfer.hardLinks then pure .done
  else if transfer.following = .never then
    if isLinkEntry source.entry && isLinkEntry target.entry then
      if isName then pure .refuse
      else if transfer.backsUp || !isSame then pure .go
      else pure (if transfer.moving then .refuse else .done)
    else decideNames transfer source target isName isSame
  else if !isSame then pure .go
  else match (← entryAt false source.path), (← entryAt false target.path) with
    | .ok (left, leftEntry), .ok (right, rightEntry) => do
      let source := { source with place := left, entry := leftEntry }
      let target := { target with place := right, entry := rightEntry }
      if isLinkEntry leftEntry && isLinkEntry rightEntry && transfer.removing then pure .go
      else do decideNames transfer source target isName (← isSameFile left right)
    | _, _ => pure .go

def destroysSource (transfer : Transfer) (source target : Spot) : Exec Bool := do
  if transfer.backup.keeping = .numbered then pure false
  else if baseName source.path ≠ baseName target.path ++ transfer.backup.ending then pure false
  else match (← entryAt true (withoutSlashes target.path ++ transfer.backup.ending)) with
    | .ok (place, _) => isSameFile place source.place
    | .error _ => pure false

def decideTarget (transfer : Transfer) (source target : Spot) : Exec Decision := do
  let fromDirectory := source.entry = .directory
  let decision ← if transfer.overwriting = .never then pure .go
    else decideSame transfer source target
  let isNotOlder : Bool := (← timeAt source.place) ≤ (← timeAt target.place)
  let isAsked := transfer.overwriting = .asking && (transfer.moving || !fromDirectory)
  if decision = .refuse then do
    let _ ← refusePair "" source.path " and " target.path " are the same file"
    pure .refuse
  else if transfer.updating && !fromDirectory && isNotOlder then pure .done
  else if transfer.overwriting = .never && (transfer.moving || !fromDirectory) then pure .done
  else do
    let agreed ← if isAsked then isAgreed ("overwrite ".toList ++ shown target.path) else pure true
    pure (if agreed then decision else .done)

def agreeSorts (transfer : Transfer) (isOperand : Bool) (source target : Spot) :
    Transferring Bool := do
  let fromDirectory := source.entry = .directory
  let toDirectory := target.entry = .directory
  let mayDiffer := transfer.moving && transfer.backsUp
  if !toDirectory && fromDirectory && !mayDiffer then
    refusePair "cannot overwrite non-directory " target.path " with directory " source.path ""
  else if !toDirectory && isOperand && transfer.backup.keeping ≠ .numbered &&
      (← get).targets.contains target.place then
    refusePair "will not overwrite just-created " target.path " with " source.path ""
  else if toDirectory && !fromDirectory && !mayDiffer then do
    programError ("cannot overwrite directory ".toList ++ shown target.path ++
      " with non-directory".toList)
    pure false
  else pure true

/-- Make way for a source at a target that is there. Gives whether the target is new then, and the
path under which something is kept, or whether the work is done already. -/
def makeWay (transfer : Transfer) (isOperand : Bool) (source target : Spot) :
    Transferring (Except Bool (Bool × Option (List Char))) := do
  match (← decideTarget transfer source target) with
  | .refuse => pure (.error false)
  | .done => pure (.error true)
  | .go =>
    let toDirectory : Bool := target.entry = .directory
    let isTwin := ((← getThe Machine).twins target.place).length > 1
    if !(← agreeSorts transfer isOperand source target) then pure (.error false)
    else if transfer.backsUp && !isDots (baseName source.path) &&
        (transfer.moving || !toDirectory) then
      if (← destroysSource transfer source target) then do
        let what := if transfer.moving then " not moved" else " not copied"
        pure (.error (← refusePair "backing up " target.path " might destroy source;  "
          source.path what))
      else do pure (.ok (true, some (← keepFile transfer.backup target.path target.place)))
    else if !toDirectory && !transfer.moving && (transfer.removing ||
        (transfer.keepsLinks && isTwin) ||
        (transfer.following = .never && !isRegular source.entry)) then do
      modifyThe Machine (·.remove target.place)
      if transfer.verbose then put ("removed ".toList ++ shown target.path ++ ['\n'])
      pure (.ok (true, none))
    else pure (.ok (false, none))

def announceTransfer (what : String) (source target : List Char) (kept : Option (List Char)) :
    Exec Unit :=
  put (what.toList ++ shown source ++ " -> ".toList ++ shown target ++
    (kept.map fun path => " (backup: ".toList ++ shown path ++ [')']).getD [] ++ ['\n'])

inductive Destination where
  | path (source target : List Char)
  | directory (sources : List (List Char)) (target : List Char)

def destinationOf (arguments : Arguments) : Exec (Except Nat Destination) := do
  let files := arguments.operands
  let isDirect := arguments.has 'T'
  let target? := arguments.value? 't'
  let directoryError (path : List Char) : Exec (Option FileError) := do
    match (← locate path) with
    | .ok (_, .directory) => pure none
    | .ok _ => pure (some .notDirectory)
    | .error error => pure (some error)
  let refuse (what : String) (path : List Char) (error : FileError) :
      Exec (Except Nat Destination) := do
    let _ ← refusePath what path error.reason
    pure (.error 1)
  match files, target? with
  | [], _ => do pure (.error (← misuse "missing file operand".toList))
  | [file], none => do
    pure (.error (← misuse ("missing destination file operand after ".toList ++ shown file)))
  | files, some directory => do
    if isDirect then do
      programError
        "cannot combine --target-directory (-t) and --no-target-directory (-T)".toList
      pure (.error 1)
    else match (← directoryError directory) with
      | none => pure (.ok (.directory files directory))
      | some error => refuse "target directory" directory error
  | files, none => do
    let last := files.getLast?.getD []
    let fault ← directoryError last
    match isDirect, fault, files with
    | true, _, [source, target] => pure (.ok (.path source target))
    | true, _, _ => do
      pure (.error (← misuse ("extra operand ".toList ++ shown (files[2]?.getD []))))
    | false, none, _ => pure (.ok (.directory files.dropLast last))
    | false, some _, [source, target] => pure (.ok (.path source target))
    | false, some error, _ => refuse "target" last error

def refuseTwoTargets : Exec Nat := do
  programError "multiple target directories specified".toList
  pure 1

end HouseStyle.Shell.Exec
