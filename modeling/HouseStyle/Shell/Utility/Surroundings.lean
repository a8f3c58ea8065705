import HouseStyle.Shell.Lookup
import HouseStyle.Shell.Utility.Files

namespace HouseStyle.Shell.Exec

/-- Tell the current directory: its place, or the path by which it was reached, if that is known and
still leads there. -/
def workingDirectory (words : List (List Char)) : Exec Nat :=
  let forms := OptionForm.named [('L', "logical"), ('P', "physical")]
  withArguments 1 forms words fun arguments => do
    let here := (← process).here
    if arguments.operands ≠ [] then programError "ignoring non-option arguments".toList
    let path := (← environment? "PWD").getD []
    let isPlain : Bool := path.head? = some '/' && (Text.splitAt '/' path).all (!isDots ·)
    let leadsHere : Bool ← match (← locate path) with
      | .ok (place, .directory) => pure (place = here)
      | _ => pure false
    let isStrict := (← environment? "POSIXLY_CORRECT").isSome
    let isLogical : Bool := match arguments.last? "LP" with
      | some letter => letter = 'L'
      | none => isStrict
    if isLogical && isPlain && leadsHere then do
      put (path ++ ['\n'])
      pure 0
    else if (← get).tree.isDirectoryAt here then do
      put (absolutePath here ++ ['\n'])
      pure 0
    else do
      programError "couldn't find directory entry in '..' with matching i-node".toList
      pure 1

/-! ## Who runs a process -/

def withoutOperands (failing : Nat) (forms : List OptionForm) (words : List (List Char))
    (run : Arguments → Exec Nat) : Exec Nat :=
  withArguments failing forms words fun arguments =>
    match arguments.operands with
    | [] => run arguments
    | operand :: _ => do
      let _ ← misuse ("extra operand ".toList ++ quoted operand)
      pure failing

def whoami (words : List (List Char)) : Exec Nat :=
  withoutOperands 1 [] words fun _ => do
    put "root\n".toList
    pure 0

def logname (words : List (List Char)) : Exec Nat :=
  withoutOperands 1 [] words fun _ => do
    programError "no login name".toList
    pure 1

def users (words : List (List Char)) : Exec Nat :=
  withArguments 1 [] words fun _ => pure 0

def isSuperuser (word : List Char) : Bool :=
  word = "root".toList || word ≠ [] && word.all (· = '0') || word = ['+', '0']

def eachUser (operands : List (List Char)) (run : List Char → Exec Unit) : Exec Nat :=
  eachOperand operands fun word => do
    if isSuperuser word then do
      run word
      pure true
    else do
      programError (quoted word ++ ": no such user".toList)
      pure false

def groups (words : List (List Char)) : Exec Nat :=
  withArguments 1 [] words fun arguments => do
    match arguments.operands with
    | [] => do
      put "root\n".toList
      pure 0
    | operands => eachUser operands fun word => put (word ++ " : root\n".toList)

def identity (words : List (List Char)) : Exec Nat :=
  let forms := OptionForm.named [('Z', "context"), ('g', "group"), ('G', "groups"), ('n', "name"),
    ('r', "real"), ('u', "user"), ('z', "zero")] ++ OptionForm.letters "a"
  withArguments 1 forms words fun arguments => do
    let refuse (message : String) : Exec Nat := do
      programError message.toList
      pure 1
    let choices := ['g', 'G', 'u'].filter arguments.has
    if arguments.has 'Z' then
      refuse "--context (-Z) works only on an SELinux-enabled kernel"
    else if 1 < choices.length then
      refuse "cannot print \"only\" of more than one choice"
    else if choices.isEmpty && (arguments.has 'n' || arguments.has 'r') then
      refuse "cannot print only names or real IDs in default format"
    else if choices.isEmpty && arguments.has 'z' then
      refuse "option --zero not permitted in default format"
    else do
      let text := if choices.isEmpty then "uid=0(root) gid=0(root) groups=0(root)"
        else if arguments.has 'n' then "root" else "0"
      let lineEnd := if arguments.has 'z' then '\x00' else '\n'
      let tell (_ : List Char) : Exec Unit := put (text.toList ++ [lineEnd])
      match arguments.operands with
      | [] => do
        tell []
        pure 0
      | operands => eachUser operands tell

/-! ## The machine -/

def tty (words : List (List Char)) : Exec Nat :=
  withoutOperands 2 (OptionForm.named [('s', "silent"), ('s', "quiet")]) words fun arguments => do
    if !arguments.has 's' then put "not a tty\n".toList
    pure 1

def machineFacts : List (Char × String) :=
  [('s', "Linux"), ('n', "localhost"), ('r', "6.1.0"), ('v', "#1 SMP PREEMPT_DYNAMIC"),
    ('m', "x86_64"), ('p', "unknown"), ('i', "unknown"), ('o', "GNU/Linux")]

def uname (words : List (List Char)) : Exec Nat :=
  let forms := OptionForm.named [('a', "all"), ('s', "kernel-name"), ('n', "nodename"),
    ('r', "kernel-release"), ('v', "kernel-version"), ('m', "machine"), ('p', "processor"),
    ('i', "hardware-platform"), ('o', "operating-system")]
  withoutOperands 1 forms words fun arguments => do
    let isAsked (letter : Char) (fact : String) : Bool :=
      if arguments.has 'a' then fact ≠ "unknown" || arguments.has letter
      else arguments.has letter || arguments.options.isEmpty && letter = 's'
    let facts := machineFacts.filter fun (letter, fact) => isAsked letter fact
    put ([' '].intercalate (facts.map fun (_, fact) => fact.toList) ++ ['\n'])
    pure 0

def arch (words : List (List Char)) : Exec Nat :=
  withoutOperands 1 [] words fun _ => do
    put "x86_64\n".toList
    pure 0

def sync (words : List (List Char)) : Exec Nat :=
  let forms := OptionForm.named [('d', "data"), ('f', "file-system")]
  withArguments 1 forms words fun arguments =>
    if arguments.has 'd' && arguments.has 'f' then do
      programError "cannot specify both --data and --file-system".toList
      pure 1
    else if arguments.has 'd' && arguments.operands = [] then do
      programError "--data needs at least one argument".toList
      pure 1
    else eachOperand arguments.operands fun path => do
      match (← locate path) with
      | .ok _ => pure true
      | .error error => refusePath "error opening" path error.reason

/-! ## Where programs are -/

def isRunnable (path : List Char) : Exec Bool := do
  match (← locate path) with
  | .ok (_, .program _) => pure true
  | .ok (place, .file _) => do pure (Mode.canRun (← modeAt place))
  | _ => pure false

def runnablePaths (name : List Char) : Exec (List (List Char)) := do
  let directories := directoriesIn (← searchPath)
  let paths := if name.contains '/' then [name]
    else directories.map fun directory =>
      (if directory = [] then ['.'] else directory) ++ '/' :: name
  paths.filterM isRunnable

def which (words : List (List Char)) : Exec Nat := do
  let arguments := Arguments.parse .ordered (OptionForm.letters "as") words
  let isUnknown (word : List Char) : Bool := match word with
    | '-' :: letters => letters ≠ [] && word ≠ ['-', '-']
    | _ => false
  match arguments.fault with
  | some _ => do
    let letters := ((words.takeWhile isUnknown).flatMap List.tail).filter fun c =>
      c ≠ 'a' && c ≠ 's'
    report ("Illegal option -".toList ++ letters.take 1 ++ ['\n'])
    put "Usage: /usr/bin/which [-as] args\n".toList
    pure 2
  | none => do
    let found ← arguments.operands.mapM runnablePaths
    if !arguments.has 's' then
      put ((found.flatMap fun paths => if arguments.has 'a' then paths else paths.take 1).flatMap
        (· ++ ['\n']))
    pure (if found = [] || found.any List.isEmpty then 1 else 0)

end HouseStyle.Shell.Exec
