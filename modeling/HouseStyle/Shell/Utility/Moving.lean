import HouseStyle.Shell.Utility.Transfer

namespace HouseStyle.Shell.Exec

/-- Give what stands at a path another one. A target that is there is replaced if that is wanted and
both are of one sort. Gives why it is not possible. -/
def renamePath (replaces : Bool) (source target : List Char) : Exec (Option FileError) := do
  let plain (path : List Char) : List Char :=
    if path.all (· = '/') then path else withoutSlashes path
  let isSlashed (path : List Char) : Bool := path.getLast? = some '/'
  match (← locateIn false (plain source)), (← locateIn false (plain target)) with
  | .error error, _ => pure (some error)
  | _, .error error => pure (some error)
  | .ok found, .ok goal =>
    if isDots (baseName source) || found = .found [] then pure (some .busy)
    else if isDots (baseName target) then pure (some (if replaces then .busy else .alreadyThere))
    else match found, goal with
      | .vacant _, _ => pure (some .notFound)
      | .found _, .found _ =>
        if replaces then move (isSlashed source || isSlashed target) found goal
        else pure (some .alreadyThere)
      | .found _, .vacant _ => move (isSlashed source || isSlashed target) found goal
where
  move (isSlashed : Bool) : Located → Located → Exec (Option FileError)
    | .vacant _, _ => pure (some .notFound)
    | .found place, goal => do
      let machine ← get
      let isDirectory := machine.tree.isDirectoryAt place
      let target := match goal with
        | .found target | .vacant target => target
      if isSlashed && !isDirectory then pure (some .notDirectory)
      else if place.isPrefixOf target && place ≠ target then pure (some .invalid)
      else if target.isPrefixOf place && place ≠ target then pure (some .notEmpty)
      else match machine.tree.get? target with
        | none => do
          modify (·.move place target)
          pure none
        | some old =>
          let isTaken := machine.tree.below target (some 1) ≠ []
          if (machine.twins place).contains target then pure none
          else if isDirectory && old ≠ .directory then pure (some .notDirectory)
          else if !isDirectory && old = .directory then pure (some .isDirectory)
          else if isDirectory && isTaken then pure (some .notEmpty)
          else do
            modify (·.move place target)
            pure none

def finishMove (transfer : Transfer) (source target : List Char) (kept : Option (List Char)) :
    Transferring Bool := do
  if transfer.verbose then announceTransfer "renamed " source target kept
  match (← locateIn false target) with
  | .ok (.found place) =>
    modify fun progress => { progress with
      targets := if progress.several then place :: progress.targets else progress.targets }
  | _ => pure ()
  pure true

def refuseMove (source target : List Char) (error : FileError) : Exec Bool :=
  if error = .invalid then
    refusePair "cannot move " source " to a subdirectory of itself, " target ""
  else refusePair "cannot move " source " to " target (": " ++ error.reason)

def movePath (transfer : Transfer) (source target : List Char) : Transferring Bool := do
  let goalPath := if target = [] then ['.'] else target
  match (← renamePath false source goalPath) with
  | none => finishMove transfer source target none
  | some error =>
    if error = .alreadyThere && transfer.overwriting = .never then pure true
    else match (← entryAt false source), (← entryAt false goalPath) with
      | .error error, _ => refusePath "cannot stat" source error.reason
      | .ok _, .error .notFound => refuseMove source target error
      | .ok _, .error error => refusePath "cannot stat" target error.reason
      | .ok (place, entry), .ok (goal, old) => do
        let from_ : Spot := { path := source, place, entry }
        let to_ : Spot := { path := target, place := goal, entry := old }
        match (← makeWay transfer true from_ to_) with
        | .error isDone => pure isDone
        | .ok (_, kept) => do
          match (← renamePath true source goalPath) with
          | none => finishMove transfer source target kept
          | some error => refuseMove source target error

def moveOptions : List (Char × List Char) → Transfer → Exec (Except Nat Transfer)
  | [], transfer => pure (.ok transfer)
  | (letter, _) :: rest, transfer => do
    match letter with
    | 'f' => moveOptions rest { transfer with overwriting := .freely }
    | 'i' => moveOptions rest { transfer with overwriting := .asking }
    | 'n' => moveOptions rest { transfer with overwriting := .never }
    | 'u' => moveOptions rest { transfer with updating := true }
    | 'v' => moveOptions rest { transfer with verbose := true }
    | 't' =>
      if rest.any (·.1 = 't') then do pure (.error (← refuseTwoTargets))
      else moveOptions rest transfer
    | _ => moveOptions rest transfer

def mv (words : List (List Char)) : Exec Nat :=
  let forms := backupForms ++ OptionForm.letters "Z" ++
    OptionForm.named [('ζ', "context"), ('f', "force"), ('i', "interactive"), ('n', "no-clobber"),
      ('T', "no-target-directory"), ('ς', "strip-trailing-slashes"), ('u', "update"),
      ('v', "verbose")] ++
    OptionForm.namedValued [('t', "target-directory")]
  let start : Transfer := { moving := true, recursive := true, following := .never }
  withOptions 1 .mixed forms words (moveOptions · start) fun transfer arguments => do
    let strip (path : List Char) : List Char :=
      if arguments.has 'ς' then withoutSlashes path else path
    match (← destinationOf arguments) with
    | .error status => pure status
    | .ok destination =>
      if arguments.hasAny "bβS" && transfer.overwriting = .never then
        misuse "options --backup and --no-clobber are mutually exclusive".toList
      else match (← backupOfOptions arguments) with
        | none => pure 1
        | some backup => do
          let updating := transfer.updating && transfer.overwriting ≠ .never
          let transfer := { transfer with backup, updating }
          match destination with
          | .path source target => do
            let (isGood, _) ← (movePath transfer (strip source) (strip target)).run {}
            pure (if isGood then 0 else 1)
          | .directory sources directory => do
            let moveInto (source : List Char) : Transferring Bool := do
              let name := baseName source
              movePath transfer source (pathIn directory (if name = ['/'] then [] else name))
            let several := sources.length > 1
            let (results, _) ← ((sources.map strip).mapM moveInto).run { several }
            pure (if results.all id then 0 else 1)

end HouseStyle.Shell.Exec
