import HouseStyle.Shell.Expansion

namespace HouseStyle.Shell.Exec

/-! ## Options of commands -/

def optionsIn (known : List (Char × Bool)) :
    List Char → List (List Char) → Exec (List (Char × List Char) × List (List Char))
  | [], rest => pure ([], rest)
  | letter :: more, rest => do
    match known.lookup letter with
    | none => fail ("Illegal option -".toList ++ [letter])
    | some false => do
      let (options, rest) ← optionsIn known more rest
      pure ((letter, []) :: options, rest)
    | some true => do
      match more, rest with
      | [], [] => fail ("No arg for -".toList ++ [letter] ++ " option".toList)
      | [], word :: rest => pure ([(letter, word)], rest)
      | more, rest => pure ([(letter, more)], rest)

def optionWords (known : List (Char × Bool)) :
    Nat → List (List Char) → Exec (List (Char × List Char) × List (List Char))
  | 0, words => pure ([], words)
  | count + 1, words => do
    match words with
    | ['-', '-'] :: rest => pure ([], rest)
    | ('-' :: letter :: letters) :: rest => do
      let (options, rest) ← optionsIn known (letter :: letters) rest
      let (more, rest) ← optionWords known count rest
      pure (options ++ more, rest)
    | words => pure ([], words)

def takeOptions (known : List (Char × Bool)) (words : List (List Char)) :
    Exec (List (Char × List Char) × List (List Char)) :=
  optionWords known words.length words

def operands (words : List (List Char)) : Exec (List (List Char)) := do
  pure (← takeOptions [] words).2

/-! ## Options of the interpreter -/

def turnOption (letter : Char) (on : Bool) : Exec Unit :=
  changeProcess fun process =>
    let others := process.options.filter (· ≠ letter)
    { process with options := if on then letter :: others else others }

def isOptionLetter (letter : Char) : Bool :=
  letter.isAlpha && optionNames.any (·.2 = letter)

def illegalOption {α : Type} (option : List Char) : Exec α :=
  fail ("Illegal option -".toList ++ option)

def listOptions (asTable : Bool) : Exec Unit := do
  let options := (← process).options
  if asTable then put "Current option settings\n".toList
  put (optionNames.flatMap fun (name, letter) =>
    let on := options.contains letter
    if asTable then
      name.toList ++ List.replicate (16 - name.length) ' ' ++
        (if on then "on\n" else "off\n").toList
    else (if on then "set -o " else "set +o ").toList ++ name.toList ++ ['\n'])

def changeOption (letter : Char) (on : Bool) : Exec Unit := do
  if letter = 'm' && on then complain "can't access tty; job control turned off".toList
  else turnOption letter on

def turnNamedOption (name : List Char) (on : Bool) : Exec Unit := do
  match optionNames.lookup (String.ofList name) with
  | some letter => changeOption letter on
  | none => illegalOption (['o', ' '] ++ name)

def turnOptionsIn (on : Bool) : List Char → List (List Char) → Exec (List (List Char))
  | [], rest => pure rest
  | 'o' :: letters, rest => do
    match rest with
    | [] => do
      listOptions on
      turnOptionsIn on letters []
    | name :: rest => do
      turnNamedOption name on
      turnOptionsIn on letters rest
  | letter :: letters, rest => do
    if isOptionLetter letter then changeOption letter on else illegalOption [letter]
    turnOptionsIn on letters rest

/-- Turn options on and off, and give the parameters that follow, if there are any or if that is
said by two dashes. -/
def settings : Nat → List (List Char) → Exec (Option (List (List Char)))
  | 0, words => pure (if words = [] then none else some words)
  | count + 1, words => do
    match words with
    | [] => pure none
    | ['-'] :: rest => do
      turnOption 'x' false
      turnOption 'v' false
      pure (if rest = [] then none else some rest)
    | ['-', '-'] :: rest => pure (some rest)
    | ('-' :: letters) :: rest => do
      settings count (← turnOptionsIn true letters rest)
    | ('+' :: letters) :: rest => do
      settings count (← turnOptionsIn false letters rest)
    | words => pure (some words)

end HouseStyle.Shell.Exec
