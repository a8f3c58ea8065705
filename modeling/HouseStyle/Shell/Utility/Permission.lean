import HouseStyle.Shell.Utility.Files

namespace HouseStyle.Shell.Exec

inductive Telling where
  | nothing
  | changes
  | everything
  deriving DecidableEq, Repr

structure ModeChange where
  changes : List Mode.Change
  telling : Telling
  silent : Bool
  recursive : Bool
  /-- The permissions were given like options, so it is said if they do not become what the same
  change would make of them with another mask. -/
  checks : Bool

def modeText (mode : Nat) : List Char :=
  Mode.digits mode ++ [' ', '('] ++ Mode.letters mode ++ [')']

def changeMode (change : ModeChange) (path : List Char) (place : Place) : Exec Bool := do
  let mask := (← process).mask
  let isDirectory := (← get).tree.isDirectoryAt place
  let before ← modeAt place
  let after := Mode.apply isDirectory mask change.changes before
  modify (·.changeDetail place fun detail => { detail with mode := some after })
  if change.telling = .everything || (change.telling = .changes && before ≠ after) then
    put ("mode of ".toList ++ shown path ++ (if before = after then " retained as ".toList
      else " changed from ".toList ++ modeText before ++ " to ".toList) ++ modeText after ++ ['\n'])
  let plain := Mode.apply isDirectory 0 change.changes before
  if change.checks && Mode.without after plain ≠ 0 then do
    programError (Quotation.ifNeeded path ++ ": new permissions are ".toList ++
      Mode.letters after ++ ", not ".toList ++ Mode.letters plain)
    pure false
  else pure true

def changeModes (change : ModeChange) : Nat → List Char → Place → Exec Bool
  | 0, _, _ => pure true
  | depth + 1, path, place => do
    let isChanged ← changeMode change path place
    let inside := (← get).tree.below place (some 1)
    let results ← inside.mapM fun (names, entry) => do
      let name := names.headD []
      let inner := pathIn path (ofPath name)
      match entry with
      | .link _ => do
        if change.telling = .everything then
          put ("neither symbolic link ".toList ++ shown inner ++
            " nor referent has been changed\n".toList)
        pure true
      | .directory => changeModes change depth inner (place ++ [name])
      | _ => changeMode change inner (place ++ [name])
    pure (isChanged && results.all id)

def changeModeOf (change : ModeChange) (path : List Char) : Exec Bool := do
  match (← entryAt true path) with
  | .ok (place, entry) =>
    if change.recursive && entry = .directory then changeModes change 300 path place
    else changeMode change path place
  | .error error => do
    let isDangling : Bool := match (← entryAt false path) with
      | .ok (_, .link _) => error = .notFound
      | _ => false
    if !change.silent then
      if isDangling then
        programError ("cannot operate on dangling symlink ".toList ++ shown path)
      else
        let _ ← refusePath "cannot access" path error.reason
    if change.telling = .everything then
      put (shown path ++ " could not be accessed\n".toList)
    pure false

def modeLetters : String := "rwxXstugoa,+=01234567"

def chmod (words : List (List Char)) : Exec Nat :=
  let forms := OptionForm.named [('c', "changes"), ('R', "recursive"), ('ν', "no-preserve-root"),
      ('π', "preserve-root"), ('f', "quiet"), ('f', "silent"), ('v', "verbose")] ++
    OptionForm.namedValued [('ρ', "reference")] ++
    modeLetters.toList.map fun letter => { letter, demand := .optional }
  withArguments 1 forms words fun arguments => do
    let given := arguments.options.filterMap fun (letter, rest) =>
      if modeLetters.toList.contains letter then some ('-' :: letter :: rest) else none
    let operands := arguments.operands
    let (text, paths) := if given ≠ [] then ([','].intercalate given, operands)
      else if arguments.has 'ρ' then ([], operands)
      else (operands.headD [], operands.tail)
    let run (changes : List Mode.Change) : Exec Nat :=
      let telling := match arguments.last? "cv" with
        | some 'v' => .everything
        | some _ => .changes
        | none => .nothing
      let silent := arguments.has 'f'
      let recursive := arguments.has 'R'
      let checks : Bool := given ≠ []
      eachOperand paths (changeModeOf { changes, telling, silent, recursive, checks })
    if arguments.has 'ρ' && given ≠ [] then
      misuse "cannot combine mode and --reference options".toList
    else match paths, arguments.value? 'ρ' with
      | [], none =>
        if operands = [] || given ≠ [] then missingOperand
        else misuse ("missing operand after ".toList ++ quoted (operands.getLast?.getD []))
      | [], some _ => missingOperand
      | _, some path => do
        match (← entryAt true path) with
        | .ok (place, _) => do
          let bits ← modeAt place
          let mentioned := Mode.all
          run [{ who := some Mode.all, action := .assign, operand := .bits bits, mentioned }]
        | .error error => do
          let _ ← refusePath "failed to get attributes of" path error.reason
          pure 1
      | _, none =>
        match Mode.ofText? text with
        | none => misuse ("invalid mode: ".toList ++ quoted text)
        | some changes => run changes

end HouseStyle.Shell.Exec
