import HouseStyle.Shell.Builtin
import HouseStyle.Shell.Redirection

namespace HouseStyle.Shell.Exec

structure Mode where
  tested : Bool := false
  last : Bool := false

def checkFailure (mode : Mode) : Exec Unit := do
  if !mode.tested && (← process).status ≠ 0 && (← hasOption 'e') then throw .exit

def setLine (line : Nat) : Exec Unit :=
  changeProcess fun process => { process with line }

/-! ## Loops -/

inductive LoopStep where
  | done
  | again
  | over
  deriving DecidableEq, Repr

def loopStep (body : Exec Unit) : Exec LoopStep := do
  match (← settled body) with
  | .ok () => pure .done
  | .error (.jump (.breakLoop levels)) =>
    if levels ≤ 1 then pure .over else throw (.jump (.breakLoop (levels - 1)))
  | .error (.jump (.continueLoop levels)) =>
    if levels ≤ 1 then pure .again else throw (.jump (.continueLoop (levels - 1)))
  | .error halt => throw halt

def inLoop (run : Exec Unit) : Exec Unit := do
  let loops := (← process).loops
  changeProcess fun process => { process with loops := loops + 1 }
  andFinally run (changeProcess fun process => { process with loops })

/-- Run a body as long as a test ends in the right way, for at most so many rounds. The status is
that of the last body. -/
def repeatWhile (onSuccess : Bool) (test body : Exec Unit) : Nat → Nat → Exec Nat
  | 0, _ => throw .endless
  | rounds + 1, status => do
    match (← loopStep test) with
    | .over => pure status
    | .again => repeatWhile onSuccess test body rounds status
    | .done =>
      if ((← process).status = 0) ≠ (onSuccess = true) then pure status
      else do
        let step ← loopStep body
        let status := (← process).status
        if step = .over then pure status else repeatWhile onSuccess test body rounds status

def repeatFor (body : List Char → Exec Unit) : List (List Char) → Exec Unit
  | [] => pure ()
  | value :: rest => do
    if (← loopStep (body value)) ≠ .over then repeatFor body rest

/-! ## Streams -/

def keepingStreams {α : Type} (run : Exec α) : Exec α := do
  let streams := (← process).streams
  andFinally run (changeProcess fun process => { process with streams })

/-! ## Lines -/

def eachLine (run : Command → Exec Unit) : Nat → Bool → ReadState → Exec Bool
  | 0, ran, _ => pure ran
  | lines + 1, ran, state => do
    let machine ← get
    match readLine.run { state with
      aliases := machine.process.aliases
      nextDocument := machine.nextDocument
      documents := [] } with
    | .error error => do
      setLine error.line
      fail error.message.toList
    | .ok (none, _) => pure ran
    | .ok (some command, state) => do
      set { machine with
        documents := state.documents ++ machine.documents
        nextDocument := state.nextDocument }
      changeProcess fun process => { process with lineRead := state.line }
      run command
      eachLine run lines (match command with
        | .nothing => ran
        | _ => true) state

def runLines (run : Command → Exec Unit) (text : List Char) : Exec Unit := do
  let before := (← process).lineRead
  let ran ← andFinally (eachLine run (text.length + 1) false { text })
    (changeProcess fun process => { process with lineRead := before })
  if !ran then setStatus 0

end HouseStyle.Shell.Exec
