import HouseStyle.Shell.Quotation
import HouseStyle.Shell.Utility.Arguments
import HouseStyle.Shell.Values

/-!
# Utilities: the basics

What the small programs have in common: they complain under the names they were called by, they read
files or, for a dash, their input, and each gives its status.
-/

namespace HouseStyle.Shell.Exec

def programError (message : List Char) : Exec Unit := do
  report ((← process).name ++ [':', ' '] ++ message ++ ['\n'])

def hint : Exec Unit := do
  report ("Try '".toList ++ (← process).name ++ " --help' for more information.\n".toList)

def misuse (message : List Char) : Exec Nat := do
  programError message
  hint
  pure 1

def shown (word : List Char) : List Char :=
  Quotation.always word

def quoted (word : List Char) : List Char :=
  Quotation.withEscapes word

/-- The choice that a word stands for, which can be cut short as long as only one fits. Each choice
is a list of words that mean the same. It is complained about a word that stands for none. -/
def choiceOf (name : String) (choices : List (List String)) (word : List Char) :
    Exec (Option String) := do
  let line (choice : List String) : List Char :=
    "\n  - ".toList ++ (", ".toList.intercalate (choice.map fun word => quoted word.toList))
  let refuse (fault : String) : Exec (Option String) := do
    programError ((fault ++ " argument ").toList ++ quoted word ++ " for ".toList ++
      quoted name.toList ++ "\nValid arguments are:".toList ++ choices.flatMap line)
    hint
    pure none
  match choices.filter (·.contains (String.ofList word)) with
  | choice :: _ => pure choice.head?
  | [] =>
    match choices.filter (·.any fun name => word.isPrefixOf name.toList) with
    | [choice] => pure choice.head?
    | [] => refuse "invalid"
    | _ => refuse "ambiguous"

def count? (word : List Char) : Option Nat :=
  let start := word.dropWhile Arithmetic.isBlank
  let digits := if start.head? = some '+' then start.tail else start
  if digits ≠ [] && digits.all Char.isDigit then some (Text.digitsValue 10 digits) else none

def environment? (name : String) : Exec (Option (List Char)) := do
  match (← getVariable name.toList) with
  | some found => pure (if found.exported then found.value else none)
  | none => pure none

def pathError (path : List Char) (reason : String) : Exec Unit :=
  programError (Quotation.ifNeeded path ++ [':', ' '] ++ reason.toList)

def refusePath (what : String) (path : List Char) (reason : String) : Exec Bool := do
  programError (what.toList ++ [' '] ++ shown path ++ [':', ' '] ++ reason.toList)
  pure false

def missingOperand : Exec Nat :=
  misuse "missing operand".toList

def blockSize : Nat := 8192

/-- Take what was used off a stream. From a pipe whole blocks are taken; in a file the position is
where the used part ends. -/
def consumeUsed (stream count : Nat) : Exec Unit := do
  match (← streamChannel? stream) with
  | none => pure ()
  | some number =>
    match (← channel? number) with
    | some (.source _ _) => consume stream ((count + blockSize - 1) / blockSize * blockSize)
    | _ => consume stream count

def readInput (used : List Char → Nat) (stream : Nat) : Exec (Except String (List Char)) := do
  match (← streamChannel? stream) with
  | none => pure (.error "Bad file descriptor")
  | some number =>
    match (← channel? number) with
    | some .directory => pure (.error "Is a directory")
    | _ => do
      let text ← pending stream
      consumeUsed stream (used text)
      pure (.ok text)

def readPathUsing (used : List Char → Nat) (path : List Char) :
    Exec (Except String (List Char)) := do
  if path = ['-'] then readInput used 0
  else match (← locate path) with
    | .ok (_, .file content) => pure (.ok (ofBytes content))
    | .ok (_, .directory) => pure (.error "Is a directory")
    | .ok (_, .device (.stream stream)) => readInput used stream
    | .ok (_, .device .zero) => do
      noteEndless (used manyZeros)
      pure (.ok manyZeros)
    | .ok _ => pure (.ok [])
    | .error error => pure (.error error.reason)

def readPath (path : List Char) : Exec (Except String (List Char)) :=
  readPathUsing List.length path

inductive AmountFault where
  | notAmount
  | tooLarge
  deriving DecidableEq, Repr

def unitOf? (units : List Char) (text : List Char) : Option Nat :=
  let powers : List (Char × Nat) := [('k', 1), ('K', 1), ('m', 2), ('M', 2), ('g', 3), ('G', 3),
    ('t', 4), ('T', 4), ('P', 5), ('E', 6), ('Z', 7), ('Y', 8)]
  match text with
  | [] => some 1
  | letter :: rest =>
    if !units.contains letter then none
    else match letter, powers.lookup letter, rest with
      | 'b', _, [] => some 512
      | 'c', _, [] => some 1
      | 'w', _, [] => some 2
      | _, some power, [] | _, some power, ['i', 'B'] => some (Nat.pow 1024 power)
      | _, some power, ['B'] | _, some power, ['D'] => some (Nat.pow 1000 power)
      | _, _, _ => none

def amountLimit : Nat := 0x10000000000000000

def amountOf (units : String) (word : List Char) : Except AmountFault Nat :=
  let start := word.dropWhile Arithmetic.isBlank
  let start := if start.head? = some '+' then start.tail else start
  let digits := start.takeWhile Char.isDigit
  let unit := start.drop digits.length
  let value := if digits = [] then 1 else Text.digitsValue 10 digits
  match unitOf? units.toList unit with
  | none => .error .notAmount
  | some factor =>
    if digits = [] && unit = [] then .error .notAmount
    else if amountLimit ≤ value * factor then .error .tooLarge
    else .ok (value * factor)

def amountError (what : String) (word : List Char) (fault : AmountFault) : Exec Unit :=
  programError (what.toList ++ [':', ' '] ++ quoted word ++
    (if fault = .tooLarge then ": Value too large for defined data type".toList else []))

/-- Read the arguments of a program, take its options in their order, and do its work. If an option
makes no sense, that is said, and the status tells so. -/
def withOptions {α : Type} (failing : Nat) (order : WordOrder) (forms : List OptionForm)
    (words : List (List Char)) (take : List (Char × List Char) → Exec (Except Nat α))
    (run : α → Arguments → Exec Nat) : Exec Nat := do
  let arguments := Arguments.parse order forms words
  match (← take arguments.options), arguments.fault with
  | .error status, _ => pure status
  | .ok _, some fault => do
    let _ ← misuse fault
    pure failing
  | .ok taken, none => run taken arguments

/-- Read the arguments of a program and do its work. If they make no sense, that is said, and the
status tells so. -/
def withArguments (failing : Nat) (forms : List OptionForm) (words : List (List Char))
    (run : Arguments → Exec Nat) : Exec Nat :=
  withOptions failing .mixed forms words (fun _ => pure (.ok ())) (fun _ => run)

def outputFault : Exec String := do
  match (← streamChannel? 1) with
  | none => pure "Bad file descriptor"
  | some number =>
    match (← channel? number) with
    | some .full => pure "No space left on device"
    | some (.sink _ _) => pure "Broken pipe"
    | _ => pure "Bad file descriptor"

def outputRoom : Exec (Option Nat) := do
  match (← streamChannel? 1) with
  | none => pure (some 0)
  | some number =>
    match (← channel? number) with
    | some (.sink _ room) => pure room
    | _ => pure none

/-- Do the work of a program under a name. It fails with a status if its output could not be
written. -/
def asProgram (name : List Char) (failing : Nat) (run : Exec Nat) : Exec Nat := do
  changeProcess fun process => { process with name, choked := false, endless := false }
  let status ← run
  if (← process).endless then sleepForever
  else if (← process).choked then
    programError ("write error: ".toList ++ (← outputFault).toList)
    pure failing
  else pure status

def eachContent (paths : List (List Char))
    (run : List Char → List Char → Exec Unit) : Exec Nat := do
  let results ← (if paths = [] then [['-']] else paths).mapM fun path => do
    match (← readPath path) with
    | .ok content => do
      run path content
      pure true
    | .error reason => do
      pathError path reason
      pure false
  pure (if results.all id then 0 else 1)

def recordsFrom (mark : Char) : List (List Char) → List Char → List Char → List (List Char)
  | records, record, [] => (if record = [] then records else record.reverse :: records).reverse
  | records, record, c :: rest =>
    if c = mark then recordsFrom mark ((c :: record).reverse :: records) [] rest
    else recordsFrom mark records (c :: record) rest

def recordsWithEnds (mark : Char) (text : List Char) : List (List Char) :=
  recordsFrom mark [] [] text

def linesWithEnds (text : List Char) : List (List Char) :=
  recordsWithEnds '\n' text

def recordsOf (mark : Char) (text : List Char) : List (List Char) :=
  (recordsWithEnds mark text).map fun record =>
    if record.getLast? = some mark then record.dropLast else record

def linesOf (text : List Char) : List (List Char) :=
  recordsOf '\n' text

def outputPlace? : Exec (Option Place) := do
  match (← streamChannel? 1) with
  | none => pure none
  | some number =>
    match (← channel? number) with
    | some (.file place _ _ _ _) => pure (some place)
    | _ => pure none

def filePlace? (path : List Char) : Exec (Option Place) := do
  if path = ['-'] then
    match (← streamChannel? 0) with
    | none => pure none
    | some number =>
      match (← channel? number) with
      | some (.file place _ _ _ _) => pure (some place)
      | _ => pure none
  else match (← locate path) with
    | .ok (place, .file _) => pure (some place)
    | _ => pure none

def isOutput (path : List Char) : Exec Bool := do
  let place ← filePlace? path
  pure (place.isSome && place = (← outputPlace?))

end HouseStyle.Shell.Exec
