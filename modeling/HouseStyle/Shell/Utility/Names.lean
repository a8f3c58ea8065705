import HouseStyle.Shell.Utility.Files

namespace HouseStyle.Shell.Exec

def withoutEnding (ending name : List Char) : List Char :=
  if ending ≠ name && ending.isSuffixOf name then name.take (name.length - ending.length) else name

def basename (words : List (List Char)) : Exec Nat :=
  let forms := OptionForm.named [('a', "multiple"), ('z', "zero")] ++
    OptionForm.namedValued [('s', "suffix")]
  withArguments 1 forms words fun arguments => do
    let operands := arguments.operands
    let ending := arguments.value? 's'
    let lineEnd := if arguments.has 'z' then '\x00' else '\n'
    let line (ending path : List Char) := withoutEnding ending (baseName path) ++ [lineEnd]
    if operands = [] then missingOperand
    else if ending.isSome || arguments.has 'a' then
      put (operands.flatMap (line (ending.getD [])))
      pure 0
    else match operands with
      | _ :: _ :: extra :: _ => misuse ("extra operand ".toList ++ shown extra)
      | path :: rest => do
        put (line (rest.headD []) path)
        pure 0
      | [] => pure 0

def dirname (words : List (List Char)) : Exec Nat :=
  withArguments 1 (OptionForm.named [('z', "zero")]) words fun arguments => do
    let operands := arguments.operands
    let lineEnd := if arguments.has 'z' then '\x00' else '\n'
    if operands = [] then missingOperand
    else
      put (operands.flatMap fun path => parentPath path ++ [lineEnd])
      pure 0

/-! ## Links -/

def presenceOf (arguments : Arguments) : Option Presence :=
  (arguments.last? "fem").map fun
    | 'e' => .all
    | 'm' => .nothing
    | _ => .allButLast

def readlink (words : List (List Char)) : Exec Nat :=
  let forms := OptionForm.named [('f', "canonicalize"), ('e', "canonicalize-existing"),
    ('m', "canonicalize-missing"), ('n', "no-newline"), ('q', "quiet"), ('s', "silent"),
    ('v', "verbose"), ('z', "zero")]
  withArguments 1 forms words fun arguments => do
    let paths := arguments.operands
    let isLoud := arguments.last? "qsv" = some 'v'
    if paths = [] then missingOperand
    else do
      if paths.length > 1 && arguments.has 'n' then
        programError "ignoring --no-newline with multiple arguments".toList
      let lineEnd := if paths.length = 1 && arguments.has 'n' then []
        else if arguments.has 'z' then ['\x00'] else ['\n']
      eachOperand paths fun path => do
        let found : Except FileError (List Char) ← match presenceOf arguments with
          | some presence => do pure ((← canonical presence true path).map absolutePath)
          | none => do
            match (← entryAt false path) with
            | .ok (_, .link target) => pure (.ok (ofPath target.bytes))
            | .ok _ => pure (.error .invalid)
            | .error error => pure (.error error)
        match found with
        | .ok text => do
          put (text ++ lineEnd)
          pure true
        | .error error => do
          if isLoud then pathError path error.reason
          pure false

/-- The text of a place: from the root, or from a directory if that is wanted and the place is in
another one around it. -/
def placeText (relativeTo base : Option Place) (place : Place) : List Char :=
  let isInside := base.all fun base => base.isPrefixOf place
  match relativeTo with
  | some start => if isInside then pathBetween start place else absolutePath place
  | none => absolutePath place

def realpath (words : List (List Char)) : Exec Nat :=
  let forms := OptionForm.named [('e', "canonicalize-existing"), ('m', "canonicalize-missing"),
      ('L', "logical"), ('P', "physical"), ('q', "quiet"), ('s', "strip"), ('s', "no-symlinks"),
      ('z', "zero")] ++
    OptionForm.namedValued [('ρ', "relative-to"), ('β', "relative-base")]
  withArguments 1 forms words fun arguments => do
    let presence := (presenceOf arguments).getD .allButLast
    let resolve (path : List Char) : Exec (Except FileError Place) := do
      match arguments.last? "LPs" with
      | some 's' => canonical presence false path
      | some 'L' => do
        match (← canonical presence false path) with
        | .ok place => canonical presence true (absolutePath place)
        | .error error => pure (.error error)
      | _ => canonical presence true path
    let directory (letter : Char) : Exec (Except Nat (Option Place)) := do
      match arguments.value? letter with
      | none => pure (.ok none)
      | some path => do
        match (← resolve path) with
        | .ok place =>
          if presence = .all && !(← get).tree.isDirectoryAt place then do
            pathError path FileError.notDirectory.reason
            pure (.error 1)
          else pure (.ok (some place))
        | .error error => do
          pathError path error.reason
          pure (.error 1)
    if arguments.operands = [] then missingOperand
    else match (← directory 'ρ') with
      | .error status => pure status
      | .ok relativeTo => do
        match (← directory 'β') with
        | .error status => pure status
        | .ok base => do
          let isUsable := match relativeTo, base with
            | some start, some base => base.isPrefixOf start
            | _, _ => true
          let start := if isUsable then relativeTo.or base else none
          let lineEnd := if arguments.has 'z' then '\x00' else '\n'
          eachOperand arguments.operands fun path => do
            match (← resolve path) with
            | .ok place => do
              put (placeText start base place ++ [lineEnd])
              pure true
            | .error error => do
              if !arguments.has 'q' then pathError path error.reason
              pure false

end HouseStyle.Shell.Exec
