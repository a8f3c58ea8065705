import HouseStyle.Shell.Fields
import HouseStyle.Shell.Options

namespace HouseStyle.Shell.Exec

def inQuotes : Nat → List Char → List Char
  | 0, _ => []
  | count + 1, text =>
    let plain := text.takeWhile (· ≠ '\'')
    let quotes := (text.drop plain.length).takeWhile (· = '\'')
    let rest := text.drop (plain.length + quotes.length)
    let first := ['\''] ++ plain ++ ['\'']
    if quotes = [] then first
    else first ++ ['"'] ++ quotes ++ ['"'] ++ (if rest = [] then [] else inQuotes count rest)

def quote (text : List Char) : List Char :=
  inQuotes (text.length + 1) text

def listVariables (start : List Char) (isChosen : Variable → Bool) : Exec Unit := do
  let chosen := (← process).bindings.filter fun (_, found) => isChosen found
  let names := sortTexts (chosen.map (·.1))
  put (names.flatMap fun name =>
    start ++ name ++ (match (chosen.lookup name).bind (·.value) with
      | some value => '=' :: quote value
      | none => []) ++ ['\n'])

def splitAssignment (word : List Char) : List Char × Option (List Char) :=
  let name := word.takeWhile (· ≠ '=')
  (name, if name.length < word.length then some (word.drop (name.length + 1)) else none)

def markVariables (command : List Char) (mark : Variable → Variable) (isMarked : Variable → Bool)
    (words : List (List Char)) : Exec Nat := do
  let (options, words) ← takeOptions [('p', false)] words
  if options ≠ [] || words = [] then listVariables (command ++ [' ']) isMarked
  else
    words.forM fun word => do
      let (name, value) := splitAssignment word
      refuseBadName name
      match value with
      | some value => setValue name value
      | none => pure ()
      putVariable name (some (mark ((← getVariable name).getD {})))
  pure 0

def exportVariables : List (List Char) → Exec Nat :=
  markVariables "export".toList (fun found => { found with exported := true }) (·.exported)

def protectVariables : List (List Char) → Exec Nat :=
  markVariables "readonly".toList (fun found => { found with readOnly := true }) (·.readOnly)

def unset (words : List (List Char)) : Exec Nat := do
  let (options, words) ← takeOptions [('v', false), ('f', false)] words
  let ofFunctions := (options.getLast?.map (·.1)) = some 'f'
  words.forM fun name => do
    if ofFunctions then
      changeProcess fun process =>
        { process with functions := process.functions.filter (·.1 ≠ name) }
    else
      refuseBadName name
      refuseReadOnly name
      putVariable name none
  pure 0

def makeLocal (words : List (List Char)) : Exec Nat := do
  if (← process).scopes = [] then fail "not in a function".toList
  words.forM fun word => do
    let (name, value) := splitAssignment word
    if name = ['-'] then keepOptions
    else
      refuseBadName name
      keepVariable name
      match value with
      | some value => setValue name value
      | none => pure ()
  pure 0

def shift (words : List (List Char)) : Exec Nat := do
  let count ← match words with
    | [] => pure 1
    | word :: _ => naturalOf word
  let parameters := (← process).parameters
  if parameters.length < count then fail "can't shift that many".toList
  changeProcess fun process =>
    { process with parameters := parameters.drop count, optionOffset := 0 }
  pure 0

def changeSettings (words : List (List Char)) : Exec Nat := do
  if words = [] then listVariables [] (·.value.isSome)
  else
    match (← settings words.length words) with
    | some parameters => changeProcess fun process => { process with parameters, optionOffset := 0 }
    | none => pure ()
  pure 0

/-! ## Options of a script -/

def getopts (words : List (List Char)) : Exec Nat := do
  match (← operands words) with
  | known :: name :: rest => do
    let parameters := (← process).parameters
    let given := if rest = [] then parameters else rest
    let index := match (← value? "OPTIND".toList).bind Arithmetic.ofDecimal? with
      | some value => value.toNat
      | none => 1
    let index := if given.length + 1 < index then 1 else Nat.max index 1
    let offset := (← process).optionOffset
    let current := (given[index - 2]?.getD []).drop offset
    let isInside := 1 < index && 0 < offset && current ≠ []
    let (letters, index) := if isInside then (current, index) else
      match given[index - 1]? with
      | some ('-' :: letter :: letters) =>
        if letter = '-' && letters = [] then ([], index + 1) else (letter :: letters, index + 1)
      | _ => ([], index)
    let finish (result : Char) (index offset status : Nat) : Exec Nat := do
      setValue "OPTIND".toList (decimal index)
      setValue name [result]
      changeProcess fun process => { process with optionOffset := offset }
      pure status
    let silent := known.head? = some ':'
    match letters with
    | [] => finish '?' index 0 1
    | letter :: more => do
      let word := given[index - 2]?.getD []
      let offset := if more = [] then 0 else word.length - more.length
      let unsetArgument : Exec Unit := putVariable "OPTARG".toList none
      let isKnown := letter ≠ ':' && known.contains letter
      let takesArgument := (known.dropWhile (· ≠ letter))[1]? = some ':'
      if !isKnown then
        if silent then setValue "OPTARG".toList [letter]
        else
          report ("Illegal option -".toList ++ [letter, '\n'])
          unsetArgument
        finish '?' index offset 0
      else if !takesArgument then
        setValue "OPTARG".toList []
        finish letter index offset 0
      else if more ≠ [] then
        setValue "OPTARG".toList more
        finish letter index 0 0
      else
        match given[index - 1]? with
        | some argument => do
          setValue "OPTARG".toList argument
          finish letter (index + 1) 0 0
        | none => do
          if silent then
            setValue "OPTARG".toList [letter]
            finish ':' index 0 0
          else
            report ("No arg for -".toList ++ [letter] ++ " option\n".toList)
            unsetArgument
            finish '?' index 0 0
  | _ => fail "Usage: getopts optstring var [arg...]".toList

/-! ## Aliases -/

def aliasLine (name value : List Char) : List Char :=
  name ++ ['='] ++ quote value ++ ['\n']

def nameAliases (words : List (List Char)) : Exec Nat := do
  if words = [] then
    let aliases := (← process).aliases
    put ((sortTexts (aliases.map (·.1))).flatMap fun name =>
      aliasLine name ((aliases.lookup name).getD []))
    pure 0
  else
    -- The output follows the complaints.
    let results ← words.mapM fun word => do
      let (name, value) := splitAssignment word
      match value with
      | some value => do
        changeProcess fun process =>
          { process with aliases := (name, value) :: process.aliases.filter (·.1 ≠ name) }
        pure (some [])
      | none => do
        match (← process).aliases.lookup word with
        | some value => pure (some (aliasLine word value))
        | none => do
          report ("alias: ".toList ++ word ++ " not found\n".toList)
          pure none
    put (results.filterMap id).flatten
    pure (if results.all Option.isSome then 0 else 1)

def unalias (words : List (List Char)) : Exec Nat := do
  let (options, words) ← takeOptions [('a', false)] words
  if options ≠ [] then
    changeProcess fun process => { process with aliases := [] }
    pure 0
  else
    let results ← words.mapM fun name => do
      if ((← process).aliases.lookup name).isSome then
        changeProcess fun process =>
          { process with aliases := process.aliases.filter (·.1 ≠ name) }
        pure true
      else
        report ("unalias: ".toList ++ name ++ " not found\n".toList)
        pure false
    pure (if results.all id then 0 else 1)

end HouseStyle.Shell.Exec
