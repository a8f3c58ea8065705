import HouseStyle.Shell.Condition
import HouseStyle.Shell.Options

namespace HouseStyle.Shell.Exec

/-! ## The current directory -/

def absolutePath (place : Place) : List Char :=
  '/' :: ofPath ([Path.separator].intercalate place)

def extendedPath (base path : List Char) : List Char :=
  let start := if path.head? = some '/' then [] else Text.splitAt '/' base
  let names := (start ++ Text.splitAt '/' path).foldl (fun names name =>
    if name = [] || name = ['.'] then names
    else if name = ['.', '.'] then names.dropLast
    else names ++ [name]) ([] : List (List Char))
  '/' :: ['/'].intercalate names

def enter (place : Place) (directory : List Char) : Exec Unit := do
  let publish (name value : List Char) : Exec Unit :=
    putVariable name (some { value := some value, exported := true })
  publish "OLDPWD".toList (← process).directory
  publish "PWD".toList directory
  changeProcess fun process => { process with here := place, directory }

/-- Whether a path is looked for in the directories of a search path, too: it is not if it starts at
the root, here, or in the directory around this one. -/
def isSearched (path : List Char) : Bool :=
  let first := path.takeWhile (· ≠ '/')
  path.head? ≠ some '/' && first ≠ ['.'] && first ≠ ['.', '.']

/-- The directory for a path in the first of some directories that has one, and whether that is not
the current directory. -/
def searchedDirectory (path : List Char) : Exec (List Char × Bool) := do
  match (← value? "CDPATH".toList) with
  | none => pure (path, false)
  | some searched =>
    let found ← (Text.splitAt ':' searched).filterMapM fun directory => do
      let candidate := if directory = [] then path else directory ++ ['/'] ++ path
      match (← locate candidate) with
      | .ok (_, .directory) => pure (some (candidate, !directory.isEmpty))
      | _ => pure none
    pure (found.headD (path, false))

def changeDirectory (words : List (List Char)) : Exec Nat := do
  let (options, words) ← takeOptions [('L', false), ('P', false)] words
  let physical := (options.getLast?.map (·.1)) = some 'P'
  let isBack := words.head? = some ['-']
  let home ← value? "HOME".toList
  let previous ← value? "OLDPWD".toList
  let wanted := match words with
    | [] => home.getD []
    | word :: _ => if isBack then previous.getD [] else word
  let searches := isSearched wanted
  let wanted := if wanted = [] then ['.'] else wanted
  let (chosen, isElsewhere) ← if searches then searchedDirectory wanted else pure (wanted, false)
  let directory := (← process).directory
  let target := if physical then chosen else extendedPath directory chosen
  match (← locate target) with
  | .ok (place, .directory) => do
    enter place (if physical then absolutePath place else target)
    if isBack || isElsewhere then put ((← process).directory ++ ['\n'])
    pure 0
  | _ => fail ("can't cd to ".toList ++ wanted)

def showDirectory (words : List (List Char)) : Exec Nat := do
  let (options, _) ← takeOptions [('L', false), ('P', false)] words
  let process ← process
  let physical := (options.getLast?.map (·.1)) = some 'P'
  put ((if physical then absolutePath process.here else process.directory) ++ ['\n'])
  pure 0

/-! ## Permissions -/

def permissionLetters (bits : Nat) : List Char :=
  (if bits &&& 4 = 0 then [] else ['r']) ++ (if bits &&& 2 = 0 then [] else ['w']) ++
    (if bits &&& 1 = 0 then [] else ['x'])

def permissionText (given : Nat) : List Char :=
  ['u', '='] ++ permissionLetters (given >>> 6) ++ [',', 'g', '='] ++
    permissionLetters (given >>> 3) ++ [',', 'o', '='] ++ permissionLetters given

def askedPermissions (given : Nat) (letters : List Char) : Nat :=
  letters.foldl (fun bits letter =>
    bits ||| (match letter with
      | 'r' => 4
      | 'w' => 2
      | 'x' | 'X' => 1
      | 'u' => (given >>> 6) &&& 7
      | 'g' => (given >>> 3) &&& 7
      | 'o' => given &&& 7
      | _ => 0)) 0

def applyClause? (given : Nat) (clause : List Char) : Option Nat :=
  let users := clause.takeWhile (· ∈ ['u', 'g', 'o', 'a'])
  let everybody := users = [] || users.contains 'a'
  match clause.drop users.length with
  | operator :: letters =>
    if letters.all (· ∈ "rwxXstugo".toList) then
      let asked := askedPermissions given letters
      let shifts := (if everybody || users.contains 'u' then [6] else []) ++
        (if everybody || users.contains 'g' then [3] else []) ++
        (if everybody || users.contains 'o' then [0] else [])
      let change (given shift : Nat) : Nat :=
        let old := (given >>> shift) &&& 7
        let new := match operator with
          | '+' => old ||| asked
          | '-' => old &&& (7 - asked)
          | _ => asked
        given - (old <<< shift) + (new <<< shift)
      if operator ∈ ['+', '-', '='] then some (shifts.foldl change given) else none
    else none
  | [] => none

def applyClauses? (given : Nat) (text : List Char) : Option Nat :=
  (Text.splitAt ',' text).foldlM applyClause? given

def allPermissions : Nat := 511

def umask (words : List (List Char)) : Exec Nat := do
  let (options, words) ← takeOptions [('S', false)] words
  let mask := (← process).mask
  let change (mask : Nat) : Exec Unit := changeProcess fun process => { process with mask }
  match words with
  | [] => do
    let octal := Nat.toDigits 8 mask
    put ((if options = [] then List.replicate (4 - octal.length) '0' ++ octal
      else permissionText (allPermissions - mask)) ++ ['\n'])
  | word :: _ => do
    if word.head?.any Char.isDigit then
      if word.all Arithmetic.isOctal then change (Text.digitsValue 8 word &&& allPermissions)
      else illegalNumber word
    else match applyClauses? (allPermissions - mask) word with
      | some given => change (allPermissions - given)
      | none => fail ("Illegal mode: ".toList ++ word)
  pure 0

/-! ## Facts about files -/

def askChannel (letter : Char) : Channel → Bool
  | .null | .full | .zeros => letter ∈ ['e', 'r', 'w', 'c']
  | .source _ _ | .sink _ _ => letter ∈ ['e', 'r', 'w', 'p']
  | .file _ _ _ _ _ => letter ∈ ['e', 'r', 'w', 'f']
  | .directory => letter ∈ ['e', 'r', 'w', 'x', 'd']

def askEntry (machine : Machine) (letter : Char) (mode : Nat) : Entry → Bool
  | .file content =>
    letter ∈ ['e', 'f', 'r', 'w', 'O', 'G'] || letter = 's' && content ≠ [] ||
      letter = 'x' && Mode.canRun mode || isMarked letter mode
  | .directory => letter ∈ ['e', 'd', 'r', 'w', 'x', 's', 'O', 'G'] || isMarked letter mode
  | .program _ => letter ∈ ['e', 'f', 'r', 'x', 's']
  | .device (.stream stream) =>
    match (machine.process.streams.lookup stream).bind (machine.channels.lookup ·) with
    | some channel => askChannel letter channel
    | none => false
  | .device _ => letter ∈ ['e', 'c', 'r', 'w']
  | .link _ => false
where
  isMarked (letter : Char) (mode : Nat) : Bool :=
    [('u', 0o4000), ('g', 0o2000), ('k', 0o1000)].any fun (mark, bit) =>
      letter = mark && mode &&& bit ≠ 0

def facts : Exec Condition.Facts := do
  let machine ← get
  let find (path : List Char) := machine.tree.find machine.process.here (pathOf path)
  let isLink (path : List Char) : Bool :=
    let name := (path.reverse.takeWhile (· ≠ '/')).reverse
    let parent := path.take (path.length - name.length)
    match find (if parent = [] then ['.'] else parent) with
    | .ok (place, .directory) =>
      match machine.tree.get? (place ++ [(pathOf name).bytes]) with
      | some (.link _) => true
      | _ => false
    | _ => false
  pure {
    ask := fun letter path =>
      if letter = 'h' || letter = 'L' then isLink path
      else match find path with
        | .ok (place, entry) => askEntry machine letter (machine.modeAt place) entry
        | .error _ => false
    isSame := fun left right =>
      match find left, find right with
      | .ok (left, _), .ok (right, _) => (machine.twins left).contains right
      | _, _ => false
    isNewer := fun left right =>
      match find left, find right with
      | .ok (left, _), .ok (right, _) => machine.timeAt right < machine.timeAt left
      | _, _ => false }

def test (words : List (List Char)) : Exec Nat := do
  match Condition.decide (← facts) words with
  | .ok holds => pure (if holds then 0 else 1)
  | .error message => fail message

def bracketedTest (words : List (List Char)) : Exec Nat := do
  match words.getLast? with
  | some (']' :: _) => test words.dropLast
  | _ => fail "missing ]".toList

end HouseStyle.Shell.Exec
