import HouseStyle.Shell.Editing.Editor
import HouseStyle.Shell.Redirection

namespace HouseStyle.Shell.Exec

open Editing

structure EditOptions where
  script : Script := {}
  fault : Option ScriptFault := none
  hasScript : Bool := false
  expressions : Nat := 0
  quiet : Bool := false
  separate : Bool := false
  lineEnd : Char := '\n'
  width : Nat := 70
  eager : Bool := false
  follows : Bool := false
  inPlace : Option (List Char) := none

def EditOptions.read (options : EditOptions) (origin : Origin) (text : List Char) : EditOptions :=
  match (Reading.piece origin text).run.run options.script with
  | (.ok (), script) => { options with script, hasScript := true }
  | (.error fault, script) => { options with script, fault := some fault, hasScript := true }

def EditOptions.readExpression (options : EditOptions) (text : List Char) : EditOptions :=
  let number := options.expressions + 1
  { options with expressions := number }.read (.expression number) text

def scriptFault : ScriptFault → Exec Nat
  | .at place message => do
    programError (place.text ++ message)
    pure 1
  | .noLabel label => do
    programError ("can't find label for jump to \x60".toList ++ label ++ ['\''])
    pure 4
  | .bareClass => do
    programError Regex.bareClass.toList
    pure 4

def openSinks : List (List Char) → List Sink → Exec (Except Nat (List Sink))
  | [], sinks => pure (.ok sinks)
  | path :: rest, sinks => do
    if sinks.any (·.path = path) then openSinks rest sinks
    else match (← openChannel .overwrite path) with
      | .ok channel => openSinks rest ({ path, channel } :: sinks)
      | .error error => do
        programError ("couldn't open file ".toList ++ path ++ [':', ' '] ++ error.reason.toList)
        pure (.error 4)

def editOptions : List (Char × List Char) → EditOptions → Exec (Except Nat EditOptions)
  | [], options => pure (.ok options)
  | (letter, value) :: rest, options => do
    if options.fault.isSome then pure (.ok options)
    else match letter with
      | 'e' => editOptions rest (options.readExpression value)
      | 'f' => do
        match (← readPath value) with
        | .ok text => editOptions rest (options.read (.file value) text)
        | .error "Is a directory" => editOptions rest (options.read (.file value) [])
        | .error reason => do
          programError ("couldn't open file ".toList ++ value ++ [':', ' '] ++ reason.toList)
          pure (.error 4)
      | 'n' => editOptions rest { options with quiet := true }
      | 's' => editOptions rest { options with separate := true }
      | 'z' => editOptions rest { options with lineEnd := '\x00' }
      | 'u' => editOptions rest { options with eager := true }
      | 'F' => editOptions rest { options with follows := true }
      | 'i' => editOptions rest { options with separate := true, inPlace := some value }
      | 'l' =>
        editOptions rest { options with
          width := Text.digitsValue 10 (value.takeWhile Char.isDigit) }
      | 'E' | 'r' =>
        editOptions rest { options with script := { options.script with extended := true } }
      | 'S' =>
        editOptions rest { options with script := { options.script with confined := true } }
      | _ => editOptions rest options

def editForms : List OptionForm :=
  OptionForm.named [('n', "quiet"), ('n', "silent"), ('D', "debug"), ('F', "follow-symlinks"),
    ('p', "posix"), ('E', "regexp-extended"), ('s', "separate"), ('S', "sandbox"),
    ('u', "unbuffered"), ('z', "null-data"), ('z', "zero-terminated"), ('b', "binary")] ++
  OptionForm.namedValued [('e', "expression"), ('f', "file"), ('l', "line-length")] ++
  OptionForm.letters "r" ++ [{ letter := 'i', demand := .optional, name := "in-place" }]

def editUsage : Exec Unit := do
  report ("Usage: ".toList ++ (← process).name ++
    " [OPTION]... \x7bscript-only-if-no-other-script\x7d [input-file]...\n".toList)

def editFiles (launch : Launch) (options : EditOptions) (paths : List (List Char)) :
    Exec Nat := do
  let written := options.script.steps.toList.filterMap (·.command.written?)
  match (← openSinks written []) with
  | .error status => pure status
  | .ok sinks =>
    let checked : Except ScriptFault Script := match options.fault with
      | some fault => .error fault
      | none => options.script.check
    match checked with
    | .error fault => scriptFault fault
    | .ok script =>
      if options.inPlace.isSome && paths = [] then do
        programError "no input files".toList
        pure 4
      else do
        let editor : Editor := {
          steps := script.steps, labels := script.labels
          quiet := options.quiet || script.quiet
          separate := options.separate, lineEnd := options.lineEnd, width := options.width
          eager := options.eager, inPlace := options.inPlace, follows := options.follows
          paths := if paths = [] then [['-']] else paths
          ranges := #[], sinks
          scriptEnd := { script.place with used := 0 } }
        let finish : Edit Nat := do
          try Edit.all launch
          catch status => do
            Edit.flushBut 0
            pure status
        let (status, editor) ← StateT.run finish.run editor
        if editor.used ≠ 0 then
          if options.eager then consume 0 editor.used else consumeUsed 0 editor.used
        pure (match status with
          | .ok status | .error status => status)

def sed (launch : Launch) (words : List (List Char)) : Exec Nat := do
  let arguments := Arguments.parse .mixed editForms words
  match (← editOptions arguments.options {}) with
  | .error status => pure status
  | .ok options =>
    match options.fault, arguments.fault with
    | some _, _ => editFiles launch options []
    | none, some fault => do
      programError fault
      editUsage
      pure 1
    | none, none =>
      if options.hasScript then editFiles launch options arguments.operands
      else match arguments.operands with
        | [] => do
          editUsage
          pure 1
        | script :: paths => editFiles launch (options.readExpression script) paths

end HouseStyle.Shell.Exec
