import HouseStyle.Shell.Utility.Files

namespace HouseStyle.Shell.Exec

/-! ## Files -/

inductive Asking where
  | never
  | once
  | always
  deriving DecidableEq, Repr

structure Removal where
  recursive : Bool := false
  force : Bool := false
  directories : Bool := false
  verbose : Bool := false
  asking : Asking := .never

def entryKind : Entry → String
  | .file [] => "regular empty file"
  | .file _ | .program _ => "regular file"
  | .directory => "directory"
  | .link _ => "symbolic link"
  | .device _ => "character special file"

def agreesTo (removal : Removal) (what : String) (path : List Char) : Exec Bool := do
  if removal.asking = .always then isAgreed (what.toList ++ [' '] ++ shown path) else pure true

/-- Remove what stands at a place, and before that all that stands below it. Gives whether nothing
went wrong; that somebody wants to keep something is not wrong. -/
def removeAt (removal : Removal) : Nat → List Char → Place → Exec Bool
  | 0, _, _ => pure false
  | depth + 1, path, place => do
    match (← get).tree.get? place with
    | none => pure true
    | some .directory => do
      let names := ((← get).tree.below place (some 1)).filterMap fun (names, _) => names.head?
      let refuse := refusePath "cannot remove" path FileError.notEmpty.reason
      let agreed ← if names = [] || !removal.recursive then pure true
        else agreesTo removal "descend into directory" path
      if names ≠ [] && !removal.recursive then refuse
      else if !agreed then pure true
      else
        let results ← names.mapM fun name =>
          removeAt removal depth (pathIn path (ofPath name)) (place ++ [name])
        if !results.all id then pure false
        else if !(← agreesTo removal "remove directory" path) then pure true
        else if (← get).tree.below place (some 1) ≠ [] then refuse
        else do
          modify (·.remove place)
          if removal.verbose then put ("removed directory ".toList ++ shown path ++ ['\n'])
          pure true
    | some entry =>
      if !(← agreesTo removal ("remove " ++ entryKind entry) path) then pure true
      else do
        modify (·.remove place)
        if removal.verbose then put ("removed ".toList ++ shown path ++ ['\n'])
        pure true

def removePath (removal : Removal) (path : List Char) : Exec Bool := do
  let refuse := refusePath "cannot remove" path
  let isSlashed := path.getLast? = some '/'
  match (← entryAt false path) with
  | .error error =>
    if removal.force && (error = .notFound || error = .notDirectory) then pure true
    else refuse error.reason
  | .ok (place, .directory) => do
    let isLink := match (← entryAt false (withoutSlashes path)) with
      | .ok (_, .link _) => true
      | _ => false
    if !removal.recursive && !removal.directories then refuse FileError.isDirectory.reason
    else if place = [] then do
      programError "it is dangerous to operate recursively on '/'".toList
      programError "use --no-preserve-root to override this failsafe".toList
      pure false
    else if isDots (baseName path) then do
      programError ("refusing to remove '.' or '..' directory: skipping ".toList ++ shown path)
      pure false
    else if isSlashed && isLink then do
      let inside := ((← get).tree.below place (some 1)).filterMap fun (names, _) => names.head?
      let removable := removal.recursive || inside = []
      let results ← (if removal.recursive then inside else []).mapM fun name =>
        removeAt removal maxDepth (pathIn path (ofPath name)) (place ++ [name])
      if !removable then refuse FileError.notEmpty.reason
      else if results.all id then refuse FileError.notDirectory.reason
      else pure false
    else removeAt removal maxDepth (if isSlashed then withoutSlashes path else path) place
  | .ok (place, _) => removeAt removal maxDepth path place
where
  maxDepth : Nat := 300

def removalOf : List (Char × List Char) → Removal → Exec (Except Nat Removal)
  | [], removal => pure (.ok removal)
  | (letter, word) :: rest, removal => do
    match letter with
    | 'f' => removalOf rest { removal with force := true, asking := .never }
    | 'i' => removalOf rest { removal with force := false, asking := .always }
    | 'I' => removalOf rest { removal with force := false, asking := .once }
    | 'r' | 'R' => removalOf rest { removal with recursive := true }
    | 'd' => removalOf rest { removal with directories := true }
    | 'v' => removalOf rest { removal with verbose := true }
    | 'α' =>
      if word = [] then removalOf rest { removal with force := false, asking := .always }
      else
        let choices := [["never", "no", "none"], ["once"], ["always", "yes"]]
        match (← choiceOf "--interactive" choices word) with
        | none => pure (.error 1)
        | some "never" => removalOf rest { removal with force := false, asking := .never }
        | some "once" => removalOf rest { removal with force := false, asking := .once }
        | some _ => removalOf rest { removal with force := false, asking := .always }
    | _ => removalOf rest removal

def rm (words : List (List Char)) : Exec Nat :=
  let forms := OptionForm.named [('f', "force")] ++
    [{ letter := 'α', name := "interactive", demand := .optional }] ++
    OptionForm.named [('ο', "one-file-system"), ('ν', "no-preserve-root")] ++
    [{ letter := 'π', name := "preserve-root", demand := .optional }] ++
    OptionForm.named [('r', "recursive"), ('d', "dir"), ('v', "verbose")] ++
    OptionForm.letters "RiI"
  withOptions 1 .mixed forms words (removalOf · {}) fun removal arguments => do
    let paths := arguments.operands
    if paths = [] then if removal.force then pure 0 else missingOperand
    else if removal.asking = .once && (removal.recursive || paths.length > 3) then do
      let count := decimal paths.length ++
        (if paths.length = 1 then " argument" else " arguments").toList
      if (← isAgreed ("remove ".toList ++ count ++
          (if removal.recursive then " recursively" else "").toList)) then
        eachOperand paths (removePath removal)
      else pure 0
    else eachOperand paths (removePath removal)

/-! ## Directories -/

def removalFault? (path : List Char) : Exec (Option String) := do
  match (← entryAt false path) with
  | .error error => pure (some error.reason)
  | .ok (place, .directory) => do
    let isLink := match (← entryAt false (withoutSlashes path)) with
      | .ok (_, .link _) => true
      | _ => false
    if isLink && path.getLast? = some '/' then pure (some "Symbolic link not followed")
    else if baseName path = ['.'] then pure (some "Invalid argument")
    else if place = [] then pure (some "Device or resource busy")
    else if baseName path = ['.', '.'] || (← get).tree.below place (some 1) ≠ [] then
      pure (some FileError.notEmpty.reason)
    else pure none
  | .ok _ => pure (some FileError.notDirectory.reason)

def parentPaths : Nat → List Char → List (List Char)
  | 0, _ => []
  | count + 1, path =>
    let start := (path.reverse.dropWhile (· ≠ '/')).reverse
    match (start.reverse.dropWhile (· = '/')).reverse with
    | [] => if start = [] then [] else [['/']]
    | parent => parent :: parentPaths count parent

def removeDirectories (verbose ignoring : Bool) (what : String) : List (List Char) → Exec Bool
  | [] => pure true
  | path :: rest => do
    if verbose then
      put ((← process).name ++ ": removing directory, ".toList ++ shown path ++ ['\n'])
    match (← removalFault? path) with
    | none => do
      match (← entryAt false path) with
      | .ok (place, _) => modify (·.remove place)
      | .error _ => pure ()
      removeDirectories verbose ignoring "failed to remove directory" rest
    | some reason =>
      if ignoring && reason = FileError.notEmpty.reason then pure true
      else refusePath what path reason

def rmdir (words : List (List Char)) : Exec Nat :=
  let forms := OptionForm.named [('ι', "ignore-fail-on-non-empty"), ('p', "parents"),
    ('p', "path"), ('v', "verbose")]
  withArguments 1 forms words fun arguments => do
    let paths := arguments.operands
    if paths = [] then missingOperand
    else eachOperand paths fun path => do
      let plain := withoutSlashes path
      let parents := if arguments.has 'p' then parentPaths path.length plain else []
      removeDirectories (arguments.has 'v') (arguments.has 'ι') "failed to remove"
        (path :: parents)

def unlink (words : List (List Char)) : Exec Nat :=
  withArguments 1 [] words fun arguments => do
    match arguments.operands with
    | [] => missingOperand
    | _ :: extra :: _ => misuse ("extra operand ".toList ++ quoted extra)
    | [path] => do
      let refuse (reason : String) : Exec Nat := do
        let _ ← refusePath "cannot unlink" path reason
        pure 1
      match (← entryAt false path) with
      | .error error => refuse error.reason
      | .ok (_, .directory) => refuse FileError.isDirectory.reason
      | .ok (place, _) => do
        modify (·.remove place)
        pure 0

end HouseStyle.Shell.Exec
