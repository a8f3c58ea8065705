import HouseStyle.Shell.Input
import HouseStyle.Shell.Limit
import HouseStyle.Shell.Lookup

namespace HouseStyle.Shell.Exec

def leaveLoops (jump : Nat → Jump) (words : List (List Char)) : Exec Nat := do
  let levels ← match words with
    | [] => pure 1
    | word :: _ => do
      let levels ← naturalOf word
      if levels = 0 then illegalNumber word
      pure levels
  let loops := (← process).loops
  setStatus 0
  if 0 < loops then throw (.jump (jump (Nat.min levels loops)))
  pure 0

def takeStatus (words : List (List Char)) : Exec Unit := do
  match words with
  | [] => pure ()
  | word :: _ => do
    setStatus (← naturalOf word)

def exit (words : List (List Char)) : Exec Nat := do
  takeStatus words
  throw .exit

def returnFromFunction (words : List (List Char)) : Exec Nat := do
  takeStatus words
  throw (.jump .returnFromFunction)

def printFormatted (words : List (List Char)) : Exec Nat := do
  match (← operands words) with
  | [] => fail "usage: printf format [arg ...]".toList
  | format :: arguments => do
    let printed := printf format arguments
    printed.complaints.forM complain
    match printed.fault with
    | some message => do
      complain message
      put printed.output.reverse
      setStatus 2
      throw .failure
    | none => do
      put printed.output.reverse
      pure (if printed.complaints = [] then 0 else 1)

def withoutJob (_ : List (List Char)) : Exec Nat :=
  fail "No current job".toList

def times (_ : List (List Char)) : Exec Nat := do
  put "0m0.000000s 0m0.000000s\n0m0.000000s 0m0.000000s\n".toList
  pure 0

def builtins : List (String × (List (List Char) → Exec Nat)) :=
  [(":", fun _ => pure 0), ("true", fun _ => pure 0), ("false", fun _ => pure 1),
    ("[", bracketedTest), ("alias", nameAliases), ("bg", withoutJob),
    ("break", leaveLoops .breakLoop), ("cd", changeDirectory), ("chdir", changeDirectory),
    ("command", describeOne), ("continue", leaveLoops .continueLoop),
    ("echo", fun words => do
      put (echo words)
      pure 0),
    ("exit", exit), ("export", exportVariables), ("fg", withoutJob), ("getopts", getopts),
    ("hash", hash), ("jobs", listJobs), ("kill", kill), ("local", makeLocal),
    ("printf", printFormatted), ("pwd", showDirectory), ("read", readLineInto),
    ("readonly", protectVariables), ("return", returnFromFunction), ("set", changeSettings),
    ("shift", shift), ("test", test), ("times", times), ("trap", trap), ("type", describeAll),
    ("ulimit", limits), ("umask", umask), ("unalias", unalias), ("unset", unset), ("wait", wait)]

def withSubject {α : Type} (subject : List Char) (run : Exec α) : Exec α := do
  let before := (← process).subject
  changeProcess fun process => { process with subject := some subject }
  andFinally run (changeProcess fun process => { process with subject := before })

def runBuiltin (name : List Char) (run : Exec Nat) : Exec Unit :=
  withSubject name do
    changeProcess fun process => { process with choked := false }
    let status ← run
    let choked := (← process).choked
    changeProcess fun process => { process with choked := false }
    if choked then complain (name ++ ": I/O error".toList)
    setStatus (if choked then status ||| 1 else status)

end HouseStyle.Shell.Exec
