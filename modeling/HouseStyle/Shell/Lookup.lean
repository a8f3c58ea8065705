import HouseStyle.Shell.Directory
import HouseStyle.Shell.Program
import HouseStyle.Shell.Reading
import HouseStyle.Shell.Signal

/-!
# What a name runs

A command is a builtin of the interpreter, a function, or a program that is looked for in the
directories of a search path. Functions hide builtins, except for the special ones.
-/

namespace HouseStyle.Shell

def builtinNames : List String :=
  specialNames ++ ["[", "alias", "bg", "cd", "chdir", "command", "echo", "false", "fg", "getopts",
    "hash", "jobs", "kill", "printf", "pwd", "read", "test", "true", "type", "ulimit", "umask",
    "unalias", "wait"]

def isBuiltin (name : List Char) : Bool :=
  builtinNames.contains (String.ofList name)

namespace Exec

def function? (name : List Char) : Exec (Option Command) := do
  pure ((← process).functions.lookup name)

/-! ## Programs -/

def standardPath : List Char :=
  "/usr/local/sbin:/usr/local/bin:/usr/sbin:/usr/bin:/sbin:/bin".toList

structure Start where
  program : Program
  name : List Char
  arguments : List (List Char)

/-- The interpreter that a script names in its first line, and the argument that it gets, if there is
one. -/
def interpreterOf? (script : List Char) : Option (List Char × List (List Char)) :=
  match script with
  | '#' :: '!' :: rest =>
    let isBlank (c : Char) : Bool := c = ' ' || c = '\t'
    let line := (rest.takeWhile (· ≠ '\n')).dropWhile isBlank
    let line := (line.reverse.dropWhile isBlank).reverse
    let path := line.takeWhile (!isBlank ·)
    let argument := (line.drop path.length).dropWhile isBlank
    if path = [] then none else some (path, if argument = [] then [] else [argument])
  | _ => none

/-- What is to be run for the file at a path. A script is run by the interpreter that it names, or by
this one, and these can be scripts themselves. -/
def startAt (path name : List Char) (arguments : List (List Char)) :
    Exec (Except FileError Start) :=
  go 6 path name arguments
where
  go : Nat → List Char → List Char → List (List Char) → Exec (Except FileError Start)
    | 0, _, _, _ => pure (.error .tooManyLinks)
    | depth + 1, path, name, arguments => do
      match (← locate path) with
      | .ok (_, .program known) =>
        match Program.ofName? known with
        | some program => pure (.ok { program, name, arguments })
        | none => pure (.error .permissionDenied)
      | .ok (place, .file content) =>
        if !Mode.canRun ((← get).modeAt place) then pure (.error .permissionDenied)
        else match interpreterOf? (ofBytes content) with
          | some (interpreter, words) =>
            go depth interpreter interpreter (words ++ path :: arguments)
          | none =>
            let arguments := path :: arguments
            pure (.ok { program := .interpreter, name := "/bin/sh".toList, arguments })
      | .ok _ => pure (.error .permissionDenied)
      | .error error => pure (.error error)

def searchedPath (directory name : List Char) : List Char :=
  if directory = [] then name else directory ++ ['/'] ++ name

/-- The directories of a search path, from the first on in which a name is a file that can be run.
What is there but cannot be run makes a difference for the reason that is given. -/
def directoriesWith (name : List Char) (reason : FileError) :
    List (List Char) → Exec (Except FileError (List (List Char)))
  | [] => pure (.error reason)
  | directory :: rest => do
    match (← locate (searchedPath directory name)) with
    | .ok (_, .program _) => pure (.ok (directory :: rest))
    | .ok (place, .file _) =>
      if Mode.canRun ((← get).modeAt place) then pure (.ok (directory :: rest))
      else directoriesWith name .permissionDenied rest
    | .ok _ => directoriesWith name .permissionDenied rest
    | .error .notFound | .error .notDirectory => directoriesWith name reason rest
    | .error error => directoriesWith name error rest

def startIn (name : List Char) (arguments : List (List Char)) (reason : FileError) :
    List (List Char) → Exec (Except FileError Start)
  | [] => pure (.error reason)
  | directory :: rest => do
    match (← startAt (searchedPath directory name) name arguments) with
    | .ok start => pure (.ok start)
    | .error .notFound | .error .notDirectory => startIn name arguments reason rest
    | .error error => startIn name arguments error rest

def directoriesIn (searchPath : Option (List Char)) : List (List Char) :=
  (searchPath.map (Text.splitAt ':')).getD []

def programPath (searchPath : Option (List Char)) (name : List Char) :
    Exec (Except FileError (List Char)) := do
  if name.contains '/' then
    match (← locate name) with
    | .ok _ => pure (.ok name)
    | .error error => pure (.error error)
  else
    let found ← directoriesWith name .notFound (directoriesIn searchPath)
    pure (found.map fun directories => searchedPath (directories.headD []) name)

def searchPath : Exec (Option (List Char)) :=
  value? "PATH".toList

def runReason : FileError → List Char
  | .notFound | .notDirectory => "not found".toList
  | error => error.reason.toList

def runStatus : FileError → Nat
  | .notFound | .notDirectory | .nameTooLong | .tooManyLinks => 127
  | _ => 126

def rememberProgram (name path : List Char) : Exec Unit :=
  if name.contains '/' then pure ()
  else changeProcess fun process =>
    { process with lookedUp :=
        if (process.lookedUp.lookup name).isSome then process.lookedUp.map fun (other, old) =>
          (other, if other = name then path else old)
        else (name, path) :: process.lookedUp }

def lookupKey (name : List Char) : Nat :=
  let first := ((name.head?.map Char.toNat).getD 0) <<< 4
  (name.foldl (fun total c => total + c.toNat) first % 0x8000) % 31


/-! ## Descriptions -/

def describe (path : Option (List Char)) (atLength : Bool) (name : List Char) : Exec Nat := do
  let process ← process
  let say (long short : List Char) : Exec Nat := do
    put ((if atLength then name ++ long else short) ++ ['\n'])
    pure 0
  if (Keyword.find? name).isSome then say " is a shell keyword".toList name
  else match process.aliases.lookup name with
    | some value => do
      say (" is an alias for ".toList ++ value)
        ("alias ".toList ++ (aliasLine name value).dropLast)
    | none =>
      if (process.functions.lookup name).isSome then say " is a shell function".toList name
      else if isSpecialName name then say " is a special shell builtin".toList name
      else if isBuiltin name then say " is a shell builtin".toList name
      else match process.lookedUp.lookup name with
        | some found => say (" is a tracked alias for ".toList ++ found) found
        | none => do
          match (← programPath path name) with
          | .ok found => do
            rememberProgram name found
            say (" is ".toList ++ found) found
          | .error _ => do
            if atLength then put (name ++ ": not found\n".toList)
            pure 127

def describeAll (words : List (List Char)) : Exec Nat := do
  let path ← searchPath
  let results ← words.mapM (describe path true)
  pure (results.foldl (fun status result => status ||| result) 0)

def describeOne (words : List (List Char)) : Exec Nat := do
  let (options, words) ← takeOptions [('p', false), ('v', false), ('V', false)] words
  let letters := options.map (·.1)
  let atLength := (letters.filter (· ≠ 'p')).getLast? = some 'V'
  let usual ← searchPath
  match words with
  | name :: _ =>
    if letters.all (· = 'p') then pure 0
    else describe (if letters.contains 'p' then some standardPath else usual) atLength name
  | [] => pure 0

def rememberCommand : Command → Exec Unit
  | .simple _ _ ([.text name false] :: _) _ => do
    if isName name && !isBuiltin name && (← function? name).isNone then
      match (← programPath (← searchPath) name) with
      | .ok path => rememberProgram name path
      | .error _ => pure ()
  | _ => pure ()

def hash (words : List (List Char)) : Exec Nat := do
  let (options, words) ← takeOptions [('r', false)] words
  if options ≠ [] then changeProcess fun process => { process with lookedUp := [] }
  if words = [] then
    let found := (← process).lookedUp.reverse.map fun (name, path) => (lookupKey name, path)
    let ordered := found.mergeSort fun left right => left.1 ≤ right.1
    put (ordered.flatMap fun (_, path) => path ++ ['\n'])
    pure 0
  else
    let path ← searchPath
    let results ← words.mapM fun name => do
      if isBuiltin name || (← function? name).isSome then pure true
      else match (← programPath path name) with
        | .ok found => do
          rememberProgram name found
          pure true
        | .error error => do
          complain (name ++ [':', ' '] ++ runReason error)
          pure false
    pure (if results.all id then 0 else 1)

end Exec

end HouseStyle.Shell
