import HouseStyle.Shell.DateText
import HouseStyle.Shell.Utility.Backup

namespace HouseStyle.Shell.Exec

/-! ## Directories -/

def addDirectory (mode : Nat) (path : List Char) : Exec (Except FileError Unit) := do
  match (← locateIn false (withoutSlashes path)) with
  | .error error => pure (.error error)
  | .ok (.found _) => pure (.error .alreadyThere)
  | .ok (.vacant place) => do
    modify (·.create place .directory (some mode))
    pure (.ok ())

/-- The starts of a path before its slashes, without the whole path, and with the last name of
each. -/
def pathStarts (path : List Char) : List (List Char × List Char) :=
  let plain := withoutSlashes path
  (List.range plain.length).filterMap fun index =>
    let start := plain.take index
    if plain[index]? = some '/' && index > 0 && plain[index - 1]? ≠ some '/' then
      some (start, (start.reverse.takeWhile (· ≠ '/')).reverse)
    else none

def announceDirectory (verbose : Bool) (path : List Char) : Exec Unit := do
  if verbose then
    put ((← process).name ++ ": created directory ".toList ++ shown path ++ ['\n'])

def refuseDirectory (what : String) (path : List Char) (error : FileError) : Exec Bool := do
  programError (what.toList ++ [' '] ++ quoted path ++ [':', ' '] ++ error.reason.toList)
  pure false

def addParents (verbose : Bool) (mode : Nat) : List (List Char × List Char) → Exec Bool
  | [] => pure true
  | (path, name) :: rest => do
    if name = ['.'] then addParents verbose mode rest
    else
      let made ← if name = ['.', '.'] then pure (.ok ()) else addDirectory mode path
      if made.isOk && name ≠ ['.', '.'] then announceDirectory verbose path
      match (← locate path), made with
      | .ok (_, .directory), _ => addParents verbose mode rest
      | .ok _, _ => refuseDirectory "cannot create directory" path .notDirectory
      | .error .notFound, .error error => refuseDirectory "cannot create directory" path error
      | .error error, _ => refuseDirectory "cannot create directory" path error

def makeDirectory (parents verbose : Bool) (mode : Nat) (path : List Char) : Exec Bool := do
  let parentMode := Mode.without 0o777 ((← process).mask &&& Mode.without 0o777 0o300)
  let isReady ← if parents then addParents verbose parentMode (pathStarts path) else pure true
  if !isReady then pure false
  else match (← addDirectory mode path) with
    | .ok () => do
      announceDirectory verbose path
      pure true
    | .error error => do
      let refuse := refuseDirectory "cannot create directory" path error
      if !parents || error = .notFound then refuse
      else match (← locate path), error with
        | .ok (_, .directory), _ => pure true
        | .error .tooManyLinks, .alreadyThere =>
          refuseDirectory "cannot stat" path .tooManyLinks
        | _, _ => refuse

def mkdir (words : List (List Char)) : Exec Nat :=
  let forms := OptionForm.letters "Z" ++ OptionForm.named [('p', "parents"), ('v', "verbose")] ++
    OptionForm.namedValued [('m', "mode")] ++
    [{ letter := 'ζ', name := "context", demand := .optional }]
  withArguments 1 forms words fun arguments => do
    let paths := arguments.operands
    let mask := (← process).mask
    let mode? := match arguments.value? 'm' with
      | none => some (Mode.without 0o777 mask)
      | some text => (Mode.ofText? text).map fun changes =>
        let mode := Mode.apply true mask changes 0o777
        let mentioned := changes.foldl (fun bits change => bits ||| change.mentioned) 0
        if mode &&& 0o1000 = 0 then mode else Mode.without mode (Mode.without 0o022 mentioned)
    if paths = [] then missingOperand
    else match mode? with
      | none => do
        programError ("invalid mode ".toList ++ quoted ((arguments.value? 'm').getD []))
        pure 1
      | some mode =>
        eachOperand paths (makeDirectory (arguments.has 'p') (arguments.has 'v') mode)

/-! ## Files -/

structure Touch where
  creates : Bool
  links : Bool
  changes : Bool
  time : Int

def setTime (touch : Touch) (place : Place) : Exec Unit := do
  if touch.changes then
    modify (·.changeDetail place fun detail => { detail with time := some touch.time })

def touchPath (touch : Touch) (path : List Char) : Exec Bool := do
  let isSlashed := path.getLast? = some '/'
  let refuse (error : FileError) : Exec Bool :=
    if touch.creates && !touch.links && !isSlashed then refusePath "cannot touch" path error.reason
    else if !touch.creates && error = .notFound then pure true
    else refusePath "setting times of" path error.reason
  if path = ['-'] then do
    match (← outputPlace?) with
    | some place => setTime touch place
    | none => pure ()
    pure true
  else match (← locateIn (!touch.links) path) with
    | .ok (.found place) => do
      if isSlashed && !(← get).tree.isDirectoryAt place then refuse .notDirectory
      else do
        setTime touch place
        pure true
    | .ok (.vacant place) => do
      if touch.creates && !touch.links && !isSlashed then
        let mode := Mode.without 0o666 (← process).mask
        modify (·.create place (.file []) (some mode))
        modify (·.changeDetail place fun detail => { detail with time := some touch.time })
        pure true
      else refuse .notFound
    | .error error => refuse error

/-- The parts of the time options: a stamp and which times are set. The first that makes no sense is
complained about. -/
def touchOptions : List (Char × List Char) → Option Int × Bool × Bool →
    Exec (Except Nat (Option Int × Bool × Bool))
  | [], found => pure (.ok found)
  | (letter, word) :: rest, (stamp, reads, changes) => do
    match letter with
    | 'a' => touchOptions rest (stamp, true, changes)
    | 'm' => touchOptions rest (stamp, reads, true)
    | 't' =>
      match DateText.stamp? ((← get).now / 1000000) word with
      | some time => touchOptions rest (some (time * 1000000), reads, changes)
      | none => do
        programError ("invalid date format ".toList ++ quoted word)
        pure (.error 1)
    | 'τ' =>
      match (← choiceOf "--time" [["atime", "access", "use"], ["mtime", "modify"]] word) with
      | none => pure (.error 1)
      | some "atime" => touchOptions rest (stamp, true, changes)
      | some _ => touchOptions rest (stamp, reads, true)
    | _ => touchOptions rest (stamp, reads, changes)

def touchTime (stamp : Option Int) (arguments : Arguments) : Exec (Except Nat Int) := do
  let now := (← get).now
  let reference : Except (List Char × FileError) (Option Int) ← match arguments.value? 'r' with
    | none => pure (.ok none)
    | some path => do
      match (← entryAt (!arguments.has 'h') path) with
      | .ok (place, _) => do pure (.ok (some (← timeAt place)))
      | .error error => pure (.error (path, error))
  if stamp.isSome && (arguments.has 'r' || arguments.has 'd') then do
    pure (.error (← misuse "cannot specify times from more than one source".toList))
  else match reference, arguments.value? 'd' with
    | .error (path, error), _ => do
      let _ ← refusePath "failed to get attributes of" path error.reason
      pure (.error 1)
    | .ok time, none => pure (.ok ((time.or stamp).getD now))
    | .ok time, some words =>
      let start := time.getD now
      match DateText.ofWords? start words with
      | some time => pure (.ok time)
      | none => do
        programError ("invalid date format ".toList ++ quoted words)
        pure (.error 1)

def touch (words : List (List Char)) : Exec Nat :=
  let forms := OptionForm.named [('c', "no-create"), ('h', "no-dereference")] ++
    OptionForm.letters "amf" ++ OptionForm.namedValued [('d', "date"), ('r', "reference"),
      ('τ', "time")] ++ OptionForm.valued "t"
  withOptions 1 .mixed forms words (touchOptions · (none, false, false))
    fun (stamp, reads, changes) arguments => do
    match (← touchTime stamp arguments) with
    | .error status => pure status
    | .ok time =>
      let touch := {
        creates := !arguments.has 'c'
        links := arguments.has 'h'
        changes := changes || !reads
        time : Touch }
      if arguments.operands = [] then misuse "missing file operand".toList
      else eachOperand arguments.operands (touchPath touch)

/-! ## Links -/

structure Linking where
  symbolic : Bool := false
  force : Bool := false
  asking : Bool := false
  relative : Bool := false
  following : Bool := false
  verbose : Bool := false
  directories : Bool := false
  backup : Backup := {}

def addLink (linking : Linking) (source target : List Char) : Exec (Option FileError) := do
  match (← locateIn false target) with
  | .error error => pure (some error)
  | .ok (.found _) => pure (some .alreadyThere)
  | .ok (.vacant place) =>
    if linking.symbolic then
      if source = [] then pure (some .notFound)
      else do
        modify (·.create place (.link (pathOf source)) none)
        pure none
    else match (← entryAt linking.following source) with
      | .error error => pure (some error)
      | .ok (_, .directory) => pure (some .notPermitted)
      | .ok (found, _) => do
        modify (·.addTwin found place)
        pure none

def refuseLink (linking : Linking) (source target : List Char) (error : FileError) :
    Exec Bool := do
  let what := if linking.symbolic then "failed to create symbolic link " else
    "failed to create hard link "
  let showsSource := if linking.symbolic then error = .nameTooLong || source = []
    else error ≠ .alreadyThere && error ≠ .noSpace
  let arrow := if linking.symbolic then " -> " else " => "
  programError (what.toList ++ shown target ++
    (if showsSource then arrow.toList ++ shown source else []) ++ [':', ' '] ++ error.reason.toList)
  pure false

/-- Free the name of a new link, if that is wanted. Gives the name under which a file is kept, or
whether the work is done already. -/
def freeName (linking : Linking) (source target : List Char) :
    Exec (Except Bool (Option (List Char))) := do
  match (← entryAt false target) with
  | .error .notFound => pure (.ok none)
  | .error error => do pure (.error (← refusePath "failed to access" target error.reason))
  | .ok (_, .directory) => do
    programError (Quotation.ifNeeded target ++ ": cannot overwrite directory".toList)
    pure (.error false)
  | .ok (place, _) => do
    let found ← entryAt (linking.symbolic || linking.following) source
    let isSame ← match found with
      | .ok (other, _) => do
        if !(← isSameFile other place) then pure false
        else pure (((← get).twins place).length = 1 || (← isSameName source target))
      | .error _ => pure false
    if isSame then do
      pure (.error (← refusePair "" source " and " target " are the same file"))
    else do
      let agreed ← if linking.asking then isAgreed ("replace ".toList ++ shown target) else pure true
      if !agreed then pure (.error true)
      else if linking.backup.keeping ≠ .nothing then do
        pure (.ok (some (← keepFile linking.backup target place)))
      else do
        let isLinked ← match found with
          | .ok (other, _) => isSameFile other place
          | .error _ => pure false
        if !linking.symbolic && isLinked then pure (.error true)
        else do
          modify (·.remove place)
          pure (.ok none)

def linkPath (linking : Linking) (source target : List Char) : Exec Bool := do
  let target := if target.all (· = '/') then target else withoutSlashes target
  let fromTarget ← if linking.relative then do
      match (← canonical .nothing true (parentPath target)), (← canonical .nothing true source) with
      | .ok start, .ok goal => pure (pathBetween start goal)
      | _, _ => pure source
    else pure source
  let announce (kept : Option (List Char)) : Exec Bool := do
    if linking.verbose then
      put ((kept.map fun path => shown path ++ " ~ ".toList).getD [] ++ shown target ++
        (if linking.symbolic then " -> " else " => ").toList ++ shown fromTarget ++ ['\n'])
    pure true
  match (← addLink linking fromTarget target) with
  | none => announce none
  | some error => do
    let entry ← entryAt linking.following source
    match linking.symbolic, entry with
    | false, .error error => refusePath "failed to access" source error.reason
    | false, .ok (_, .directory) =>
      if linking.directories then refuseLink linking fromTarget target .notPermitted
      else do
        programError (Quotation.ifNeeded source ++ ": hard link not allowed for directory".toList)
        pure false
    | _, _ =>
      if linking.force || linking.asking || linking.backup.keeping ≠ .nothing then
        match (← freeName linking source target) with
        | .error isDone => pure isDone
        | .ok kept => do
          match (← addLink linking fromTarget target) with
          | none => announce kept
          | some error => refuseLink linking fromTarget target error
      else refuseLink linking fromTarget target error

def ln (words : List (List Char)) : Exec Nat :=
  let forms := backupForms ++ OptionForm.letters "F" ++
    OptionForm.named [('d', "directory"), ('f', "force"), ('i', "interactive"), ('L', "logical"),
      ('n', "no-dereference"), ('P', "physical"), ('r', "relative"), ('s', "symbolic"),
      ('T', "no-target-directory"), ('v', "verbose")] ++
    OptionForm.namedValued [('t', "target-directory")]
  withOptions 1 .mixed forms words targetsOf fun _ arguments => do
    let files := arguments.operands
    let asking := arguments.last? "fi" = some 'i'
    match (← backupOfOptions arguments) with
    | none => pure 1
    | some backup =>
      let linking : Linking := {
        symbolic := arguments.has 's'
        force := arguments.has 'f' && !asking
        asking
        relative := arguments.has 'r'
        following := arguments.last? "LP" = some 'L'
        verbose := arguments.has 'v'
        directories := arguments.hasAny "dF"
        backup }
      let into (directory : List Char) (files : List (List Char)) : Exec Nat :=
        eachOperand files fun file => linkPath linking file (pathIn directory (baseName file))
      if files = [] then misuse "missing file operand".toList
      else if linking.relative && !linking.symbolic then do
        programError "cannot do --relative without --symbolic".toList
        pure 1
      else match arguments.has 'T', arguments.value? 't', files with
        | true, some _, _ => do
          programError "cannot combine --target-directory and --no-target-directory".toList
          pure 1
        | true, none, [file] => misuse ("missing destination file operand after ".toList ++ shown file)
        | true, none, [file, target] => eachOperand [file] (linkPath linking · target)
        | true, none, files => misuse ("extra operand ".toList ++ shown (files[2]?.getD []))
        | false, some directory, files => into directory files
        | false, none, [file] => into ['.'] [file]
        | false, none, files => do
          let last := files.getLast?.getD []
          let follows := !arguments.has 'n'
          match (← entryAt follows last), files with
          | .ok (_, .directory), _ => into last files.dropLast
          | _, [file, target] => eachOperand [file] (linkPath linking · target)
          | .ok _, _ => do
            let _ ← refusePath "target" last FileError.notDirectory.reason
            pure 1
          | .error error, _ => do
            let _ ← refusePath "target" last error.reason
            pure 1
where
  targetsOf : List (Char × List Char) → Exec (Except Nat Unit)
    | [] => pure (.ok ())
    | ('t', path) :: rest => do
      match (← locate path) with
      | .ok (_, .directory) =>
        if rest.any (·.1 = 't') then do
          programError "multiple target directories specified".toList
          pure (.error 1)
        else targetsOf rest
      | .ok _ => do
        programError ("target ".toList ++ shown path ++ " is not a directory".toList)
        pure (.error 1)
      | .error error => do
        let _ ← refusePath "failed to access" path error.reason
        pure (.error 1)
    | _ :: rest => targetsOf rest

def link (words : List (List Char)) : Exec Nat :=
  withArguments 1 [] words fun arguments => do
    match arguments.operands with
    | [] => missingOperand
    | [path] => misuse ("missing operand after ".toList ++ quoted path)
    | _ :: _ :: extra :: _ => misuse ("extra operand ".toList ++ quoted extra)
    | [source, target] => do
      match (← addLink {} source target) with
      | none => pure 0
      | some error => do
        let _ ← refusePair "cannot create link " target " to " source (": " ++ error.reason)
        pure 1

end HouseStyle.Shell.Exec
