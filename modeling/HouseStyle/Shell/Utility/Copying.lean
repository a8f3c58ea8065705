import HouseStyle.Shell.Redirection
import HouseStyle.Shell.Utility.Transfer

namespace HouseStyle.Shell.Exec

def plainPath (path : List Char) : List Char :=
  if path = ['-'] then "./-".toList else path

def copyDetail (transfer : Transfer) (source target : Place) : Exec Unit := do
  let mode ← modeAt source
  let time ← timeAt source
  modify (·.changeDetail target fun detail => { detail with
    mode := if transfer.keepsMode then some mode else detail.mode
    time := if transfer.keepsTime then some time else detail.time })

def fillCopy (transfer : Transfer) (source target : List Char) (number : Nat) : Exec Bool := do
  if transfer.attributesOnly then pure true
  else match (← readPath (plainPath source)) with
    | .error reason => do
      programError ("error reading ".toList ++ shown source ++ [':', ' '] ++ reason.toList)
      pure false
    | .ok content => do
      if (← writeChannel number content) then pure true
      else refusePath "error writing" target FileError.noSpace.reason

def copyAnew (transfer : Transfer) (source : Spot) (target : List Char) : Exec Bool := do
  let refuse := refusePath "cannot create regular file" target
  match (← locateIn false (if target.all (· = '/') then target else withoutSlashes target)) with
  | .error error => refuse error.reason
  | .ok located => do
    if target.getLast? = some '/' then refuse FileError.notDirectory.reason
    else match located with
      | .found place => do
        match (← get).tree.get? place with
        | some (.link _) => do
          programError ("not writing through dangling symlink ".toList ++ shown target)
          pure false
        | _ => refuse FileError.alreadyThere.reason
      | .vacant place => do
        let mode := Mode.without ((← modeAt source.place) &&& 0o777) (← process).mask
        modify (·.create place (.file []) (some mode))
        let number ← newChannel (.file place 0 false true false)
        let isFilled ← fillCopy transfer source.path target number
        copyDetail transfer source.place place
        pure isFilled

def copyContent (transfer : Transfer) (source : Spot) (target : List Char) (isNew : Bool) :
    Exec Bool := do
  if isNew then copyAnew transfer source target
  else match (← openChannel (if transfer.attributesOnly then .readWrite else .overwrite) target) with
    | .ok number => do
      let isFilled ← fillCopy transfer source.path target number
      match (← entryAt true target) with
      | .ok (place, .file _) => copyDetail transfer source.place place
      | _ => pure ()
      pure isFilled
    | .error error =>
      if transfer.force then do
        match (← entryAt false target) with
        | .ok (place, _) => modify (·.remove place)
        | .error _ => pure ()
        if transfer.verbose then put ("removed ".toList ++ shown target ++ ['\n'])
        copyAnew transfer source target
      else refusePath "cannot create regular file" target error.reason

def copyAsLink (transfer : Transfer) (source target : List Char) : Exec Bool := do
  let here := (← process).here
  let isHere : Bool := match (← entryAt true (parentPath target)) with
    | .ok (place, _) => place = here
    | .error _ => true
  let refuse (error : FileError) : Exec Bool :=
    refusePair "cannot create symbolic link " target " to " source (": " ++ error.reason)
  if source.head? ≠ some '/' && !isHere then do
    programError (Quotation.ifNeeded target ++
      ": can make relative symbolic links only in current directory".toList)
    pure false
  else match (← locateIn false target) with
    | .error error => refuse error
    | .ok (.vacant place) => do
      modify (·.create place (.link (pathOf source)) none)
      pure true
    | .ok (.found place) =>
      if transfer.force then do
        modify (·.remove place)
        modify (·.create place (.link (pathOf source)) none)
        pure true
      else refuse .alreadyThere

def copyAsTwin (replaces : Bool) (source : Place) (path target : List Char) : Exec Bool := do
  let refuse (error : FileError) : Exec Bool :=
    refusePair "cannot create hard link " target " to " path (": " ++ error.reason)
  match (← locateIn false target) with
  | .error error => refuse error
  | .ok (.vacant place) => do
    modify (·.addTwin source place)
    pure true
  | .ok (.found place) =>
    if replaces then do
      modify (·.remove place)
      modify (·.addTwin source place)
      pure true
    else refuse .alreadyThere

def copyLink (transfer : Transfer) (source : Spot) (link : Path) (target : List Char) :
    Exec Bool := do
  let refuse (error : FileError) : Exec Bool :=
    refusePath "cannot create symbolic link" target error.reason
  let make (place : Place) : Exec Bool := do
    modify (·.create place (.link link) none)
    copyDetail { transfer with keepsMode := false } source.place place
    pure true
  match (← locateIn false target) with
  | .error error => refuse error
  | .ok (.vacant place) => make place
  | .ok (.found place) =>
    if transfer.force then do
      modify (·.remove place)
      make place
    else refuse .alreadyThere

def rememberCopy (isKept : Bool) (key : FileKey) (target : Place) :
    Transferring (Option Place) := do
  let progress ← get
  match progress.copies.lookup key with
  | some place => pure (some place)
  | none => do
    if isKept then set { progress with copies := (key, target) :: progress.copies }
    pure none

/-- Where a file of the source went before, if the copies are to be names of one file as well, or if
it is a directory that was copied already. -/
def earlierCopy (transfer : Transfer) (isOperand : Bool) (source : Spot) (target : List Char) :
    Transferring (Option Place) := do
  let key ← keyOf source.place
  let goal ← match (← locateIn false target) with
    | .ok (.found place) | .ok (.vacant place) => pure place
    | .error _ => pure []
  let isTwin := ((← getThe Machine).twins source.place).length > 1
  let isFollowed := transfer.following = .always || (isOperand && transfer.following = .operands)
  if transfer.recursive && source.entry = .directory then rememberCopy isOperand key goal
  else if transfer.keepsLinks && (isTwin || isFollowed) then rememberCopy true key goal
  else pure none

def makeCopy (transfer : Transfer) (source : Spot) (target : List Char) : Transferring Bool := do
  match (← locateIn false (withoutSlashes target)) with
  | .error error => refusePath "cannot create directory" target error.reason
  | .ok (.found _) => refusePath "cannot create directory" target FileError.alreadyThere.reason
  | .ok (.vacant goal) => do
    let mode := Mode.without ((← modeAt source.place) &&& 0o777) (← process).mask
    modifyThe Machine (·.create goal .directory (some mode))
    modify fun progress =>
      if progress.hasDirectory then progress
      else { progress with hasDirectory := true, copies := (.place goal, goal) :: progress.copies }
    if transfer.verbose then announceTransfer "" source.path target none
    pure true

def copyNames (copy : List Char → List Char → Transferring Bool) (path target : List Char) :
    List Name → Bool → Transferring Bool
  | [], isGood => pure isGood
  | name :: rest, isGood => do
    let isCopied ← copy (pathIn path (ofPath name)) (pathIn target (ofPath name))
    if (← get).intoItself then pure (isGood && isCopied)
    else copyNames copy path target rest (isGood && isCopied)

def copyDevice (device : Device) (target : List Char) : Exec Bool := do
  let refuse (error : FileError) : Exec Bool :=
    refusePath "cannot create special file" target error.reason
  match (← locateIn false target) with
  | .ok (.vacant goal) => do
    modify (·.create goal (.device device) none)
    pure true
  | .ok (.found _) => refuse .alreadyThere
  | .error error => refuse error

/-- Copy by the sort of the source. What is in a directory is copied by `below`, which is told whether
the target is new and which directories are around it. -/
def copyBody (transfer : Transfer)
    (below : Bool → List Place → List Char → List Char → Transferring Bool) (isNew : Bool)
    (outer : List Place) (source : Spot) (target : List Char) : Transferring Bool := do
  match source.entry with
  | .directory =>
    if outer.contains source.place then do
      programError ("cannot copy cyclic symbolic link ".toList ++ shown source.path)
      pure false
    else do
      let isMade ← if isNew then makeCopy transfer source target else pure true
      if !isMade then pure false
      else do
        let names := ((← getThe Machine).tree.below source.place (some 1)).filterMap
          fun (names, _) => names.head?
        let isCopied ← copyNames (below isNew (source.place :: outer)) source.path target names true
        match (← entryAt true target) with
        | .ok (goal, _) => copyDetail transfer source.place goal
        | .error _ => pure ()
        pure isCopied
  | entry =>
    if transfer.symbolicLinks then copyAsLink transfer source.path target
    else if transfer.hardLinks then do
      let replaces := transfer.force || transfer.overwriting = .asking
      copyAsTwin replaces source.place source.path target
    else match entry, transfer.contents with
      | .link link, _ => copyLink transfer source link target
      | .device device, false => copyDevice device target
      | _, _ => copyContent transfer source target isNew

def repeatCopy (transfer : Transfer) (top : List Char × List Char) (isOperand : Bool)
    (source : Spot) (target : List Char) : Transferring (Option Bool) := do
  let name ← match (← locateIn false source.path) with
    | .ok (.found place) | .ok (.vacant place) => pure place
    | .error _ => pure source.place
  let goal ← match (← locateIn false target) with
    | .ok (.found place) => pure (some place)
    | _ => pure none
  match (← earlierCopy transfer isOperand source target) with
  | none => pure none
  | some earlier =>
    if source.entry ≠ .directory then do
      pure (some (← copyAsTwin true earlier source.path target))
    else if earlier = name then do
      let _ ← refusePair "cannot copy a directory, " top.1 ", into itself, " top.2 ""
      modify fun progress => { progress with intoItself := true }
      pure (some false)
    else if some earlier = goal then do
      programError ("warning: source directory ".toList ++ shown top.1 ++
        " specified more than once".toList)
      pure (some true)
    else if transfer.following = .always || (isOperand && transfer.following = .operands) then
      pure none
    else do
      let path := ofPath ([Path.separator].intercalate earlier)
      pure (some (← refusePair "will not create hard link " target " to directory " path ""))

def wayTo (transfer : Transfer) (isOperand isNew : Bool) (source : Spot) (target : List Char) :
    Transferring (Except Bool (Bool × Option (List Char))) := do
  let isOdd := !isRegular source.entry &&
    (!transfer.contents || source.entry = .directory || isLinkEntry source.entry)
  let byName := isOdd || transfer.symbolicLinks || transfer.hardLinks || transfer.backsUp ||
    transfer.removing
  let standing ← if isNew then pure (.error .notFound) else entryAt (!byName) target
  match standing with
  | .ok (place, entry) => makeWay transfer isOperand source { path := target, place, entry }
  | .error .notFound => pure (.ok (true, none))
  | .error error =>
    if error = .tooManyLinks && transfer.force then pure (.ok (false, none))
    else do pure (.error (← refusePath "cannot stat" target error.reason))

def isJustLinked (target : List Char) : Transferring Bool := do
  match (← entryAt false target) with
  | .ok (place, entry) => do pure (isLinkEntry entry && (← get).targets.contains place)
  | .error _ => pure false

def isMetBefore (transfer : Transfer) (source : Spot) : Transferring Bool := do
  let name ← match (← locateIn false source.path) with
    | .ok (.found place) | .ok (.vacant place) => pure place
    | .error _ => pure source.place
  let progress ← get
  set { progress with sources := name :: progress.sources }
  pure (progress.several && source.entry ≠ .directory && !transfer.backsUp &&
    progress.sources.contains name)

def rememberTarget (target : List Char) : Transferring Unit := do
  match (← locateIn false target) with
  | .ok (.found place) =>
    modify fun progress => { progress with
      targets := if progress.several then place :: progress.targets else progress.targets }
  | _ => pure ()

/-- Copy what stands at a path, with all that stands below it. The names at the top are for
complaints. A target in a directory that was just made is new. -/
def copyEntry (transfer : Transfer) (top : List Char × List Char) :
    Nat → Bool → Bool → List Place → List Char → List Char → Transferring Bool
  | 0, _, _, _, _, _ => pure false
  | depth + 1, isOperand, isNew, outer, path, target => do
    let follows := transfer.following = .always || (isOperand && transfer.following = .operands)
    match (← entryAt follows path) with
    | .error error => refusePath "cannot stat" path error.reason
    | .ok (place, entry) => do
      let source : Spot := { path, place, entry }
      let isMet ← if isOperand then isMetBefore transfer source else pure false
      if entry = .directory && !transfer.recursive then do
        programError ("-r not specified; omitting directory ".toList ++ shown path)
        pure false
      else if isMet then do
        programError ("warning: source file ".toList ++ shown path ++
          " specified more than once".toList)
        pure true
      else match (← wayTo transfer isOperand isNew source target) with
        | .error isDone => pure isDone
        | .ok (isNew, kept) => do
          let isLinked ← if isOperand && !transfer.backsUp then isJustLinked target else pure false
          if isLinked then
            refusePair "will not copy " path " through just-created symlink " target ""
          else do
            if transfer.verbose && entry ≠ .directory then announceTransfer "" path target kept
            match (← repeatCopy transfer top isOperand source target) with
            | some isDone => pure isDone
            | none => do
              let below := copyEntry transfer top depth false
              let isCopied ← copyBody transfer below isNew outer source target
              if isOperand && isCopied then rememberTarget target
              pure isCopied

def maxNesting : Nat := 300

def copyOperand (transfer : Transfer) (source target : List Char) : Transferring Bool := do
  modify fun progress => { progress with hasDirectory := false, intoItself := false }
  copyEntry transfer (source, target) maxNesting true false [] source target

def copyParents (transfer : Transfer) (directory : List Char) :
    List (List Char) → Exec Bool
  | [] => pure true
  | parent :: rest => do
    let target := pathIn directory parent
    match (← entryAt true parent), (← entryAt true target) with
    | _, .ok (_, .directory) => copyParents transfer directory rest
    | _, .ok _ => do
      programError (shown target ++ " exists but is not a directory".toList)
      pure false
    | .error error, _ => refusePath "failed to get attributes of" parent error.reason
    | .ok (place, _), .error _ => do
      match (← locateIn false target) with
      | .ok (.vacant goal) => do
        let mode := Mode.without ((← modeAt place) &&& 0o777) (← process).mask
        modify (·.create goal .directory (some mode))
        if transfer.verbose then put (parent ++ " -> ".toList ++ target ++ ['\n'])
        copyParents transfer directory rest
      | .ok (.found _) => refusePath "cannot make directory" target FileError.alreadyThere.reason
      | .error error => refusePath "cannot make directory" target error.reason

def directoriesOf (path : List Char) : List (List Char) :=
  let plain := withoutSlashes path
  (List.range plain.length).filterMap fun index =>
    if plain[index]? = some '/' && index > 0 && plain[index - 1]? ≠ some '/' then
      some (plain.take index)
    else none

def keptBy (name : String) (isKept : Bool) : List (List Char) → Transfer →
    Exec (Except Nat Transfer)
  | [], transfer => pure (.ok transfer)
  | word :: rest, transfer => do
    match (← choiceOf name [["mode"], ["timestamps"], ["ownership"], ["links"], ["context"],
        ["xattr"], ["all"]] word) with
    | none => pure (.error 1)
    | some "mode" => keptBy name isKept rest { transfer with keepsMode := isKept }
    | some "timestamps" => keptBy name isKept rest { transfer with keepsTime := isKept }
    | some "links" => keptBy name isKept rest { transfer with keepsLinks := isKept }
    | some "all" => keptBy name isKept rest { transfer with
        keepsMode := isKept, keepsTime := isKept, keepsLinks := isKept }
    | some _ => keptBy name isKept rest transfer

structure CopyOptions where
  transfer : Transfer := {}
  following : Option Following := none
  contents : Bool := false

def copyOptions : List (Char × List Char) → CopyOptions → Exec (Except Nat CopyOptions)
  | [], found => pure (.ok found)
  | (letter, word) :: rest, found => do
    let transfer := found.transfer
    let go (transfer : Transfer) : Exec (Except Nat CopyOptions) :=
      copyOptions rest { found with transfer }
    match letter with
    | 'a' => copyOptions rest { found with
        following := some .never
        transfer := { transfer with
          recursive := true, keepsMode := true, keepsTime := true, keepsLinks := true } }
    | 'd' => copyOptions rest { found with
        following := some .never, transfer := { transfer with keepsLinks := true } }
    | 'f' => go { transfer with force := true }
    | 'H' => copyOptions rest { found with following := some .operands }
    | 'i' => go { transfer with overwriting := .asking }
    | 'l' => go { transfer with hardLinks := true }
    | 'L' => copyOptions rest { found with following := some .always }
    | 'n' => go { transfer with overwriting := .never }
    | 'P' => copyOptions rest { found with following := some .never }
    | 'p' => go { transfer with keepsMode := true, keepsTime := true }
    | 'r' | 'R' => go { transfer with recursive := true }
    | 's' => go { transfer with symbolicLinks := true }
    | 'u' => go { transfer with updating := true }
    | 'v' => go { transfer with verbose := true }
    | 'δ' => go { transfer with removing := true }
    | 'α' => go { transfer with attributesOnly := true }
    | 'κ' => copyOptions rest { found with contents := true }
    | 'π' =>
      if word = [] then go { transfer with keepsMode := true, keepsTime := true }
      else match (← keptBy "--preserve" true (Text.splitAt ',' word) transfer) with
        | .ok transfer => go transfer
        | .error status => pure (.error status)
    | 'ν' =>
      match (← keptBy "--no-preserve" false (Text.splitAt ',' word) transfer) with
      | .ok transfer => go transfer
      | .error status => pure (.error status)
    | 'σ' =>
      match (← choiceOf "--sparse" [["never"], ["auto"], ["always"]] word) with
      | some _ => go transfer
      | none => pure (.error 1)
    | 'ρ' =>
      if word = [] then go transfer
      else match (← choiceOf "--reflink" [["auto"], ["always"], ["never"]] word) with
        | some _ => go transfer
        | none => pure (.error 1)
    | 't' => do
      if rest.any (·.1 = 't') then pure (.error (← refuseTwoTargets)) else go transfer
    | _ => go transfer

def CopyOptions.transferWith (options : CopyOptions) (backup : Backup) : Transfer :=
  let transfer := options.transfer
  { transfer with
    backup
    following := options.following.getD
      (if transfer.recursive && !transfer.hardLinks then .never else .always)
    contents := !transfer.recursive || options.contents
    removing := transfer.removing ||
      (transfer.force && (transfer.hardLinks || transfer.symbolicLinks))
    updating := transfer.updating && transfer.overwriting ≠ .never }

def cp (words : List (List Char)) : Exec Nat :=
  let forms := backupForms ++ OptionForm.letters "dHPpR" ++ OptionForm.letters "Z" ++
    OptionForm.named [('a', "archive"), ('α', "attributes-only"), ('κ', "copy-contents"),
      ('L', "dereference"), ('f', "force"), ('i', "interactive"), ('l', "link"),
      ('n', "no-clobber"), ('P', "no-dereference"), ('T', "no-target-directory"),
      ('x', "one-file-system"), ('ω', "parents"), ('ω', "path"), ('r', "recursive"),
      ('δ', "remove-destination"), ('ς', "strip-trailing-slashes"), ('s', "symbolic-link"),
      ('u', "update"), ('v', "verbose")] ++
    OptionForm.namedValued [('ν', "no-preserve"), ('σ', "sparse"), ('t', "target-directory")] ++
    [{ letter := 'π', name := "preserve", demand := .optional },
      { letter := 'ρ', name := "reflink", demand := .optional },
      { letter := 'ζ', name := "context", demand := .optional }]
  withOptions 1 .mixed forms words (copyOptions · {}) fun options arguments => do
    let transfer := options.transfer
    if transfer.hardLinks && transfer.symbolicLinks then
      misuse "cannot make both hard and symbolic links".toList
    else if arguments.hasAny "bβS" && transfer.overwriting = .never then
      misuse "options --backup and --no-clobber are mutually exclusive".toList
    else match (← backupOfOptions arguments) with
      | none => pure 1
      | some backup => do
        let transfer := options.transferWith backup
        match (← destinationOf arguments) with
        | .error status => pure status
        | .ok (.path source target) =>
          if arguments.has 'ω' then
            misuse "with --parents, the destination must be a directory".toList
          else do
            let isFile := match (← locate target) with
              | .ok (_, entry) => isRegular entry
              | .error _ => false
            let isRenamed := transfer.force && transfer.backsUp && source = target && isFile
            let goal ← if isRenamed then backupPath backup target else pure target
            let transfer := if isRenamed then { transfer with backup := {} } else transfer
            let (isGood, _) ← (copyOperand transfer source goal).run {}
            pure (if isGood then 0 else 1)
        | .ok (.directory sources directory) => do
          let copyInto (source : List Char) : Transferring Bool := do
            let source := if arguments.has 'ς' then withoutSlashes source else source
            if arguments.has 'ω' then
              if !(← copyParents transfer directory (directoriesOf source)) then pure false
              else copyOperand transfer source (pathIn directory (withoutSlashes source))
            else
              let name := baseName source
              let name := if name = ['.', '.'] then ['.'] else name
              copyOperand transfer source (pathIn directory name)
          let (results, _) ← (sources.mapM copyInto).run { several := sources.length > 1 }
          pure (if results.all id then 0 else 1)

end HouseStyle.Shell.Exec
