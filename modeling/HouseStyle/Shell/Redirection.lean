import HouseStyle.Shell.Fields

namespace HouseStyle.Shell

inductive Opening where
  | read
  | write
  | overwrite
  | append
  | readWrite
  deriving DecidableEq, Repr

namespace Opening

def creates (opening : Opening) : Bool :=
  opening ≠ read

def empties (opening : Opening) : Bool :=
  opening = write || opening = overwrite

def channel (opening : Opening) (place : Place) : Channel :=
  .file place 0 (opening = read || opening = readWrite) (opening ≠ read) (opening = append)

def complaint (opening : Opening) (path : List Char) (error : FileError) : List Char :=
  let reason := match error with
    | .notFound | .notDirectory =>
      if opening.creates then "Directory nonexistent" else "No such file"
    | error => error.reason
  (if opening.creates then "cannot create " else "cannot open ").toList ++ path ++ [':', ' '] ++
    reason.toList

end Opening

inductive Target where
  | path (opening : Opening) (path : List Char)
  | copy (stream : Nat)
  | nothing
  | document (number : Nat)

namespace Exec

def streamAt? : Place → Option Nat
  | [proc, self, directory, number] =>
    let digits := ofBytes number
    if [proc, self, directory].map ofBytes = ["proc", "self", "fd"].map String.toList &&
      digits.all Char.isDigit then some (Text.digitsValue 10 digits)
    else none
  | _ => none

def newMode (process : Process) : Nat :=
  0o666 - (0o666 &&& process.mask)

def openChannel (opening : Opening) (path : List Char) : Exec (Except FileError Nat) := do
  let refuse (error : FileError) : Exec (Except FileError Nat) := pure (.error error)
  let use (number : Option Nat) : Exec (Except FileError Nat) :=
    pure (match number with
      | some number => .ok number
      | none => .error .notFound)
  let make (channel : Channel) : Exec (Except FileError Nat) := do
    pure (.ok (← newChannel channel))
  let machine ← get
  match machine.tree.locate machine.process.here (pathOf path) with
  | .error error => refuse error
  | .ok (.vacant place) => do
    match streamAt? place with
    | some stream => use (← streamChannel? stream)
    | none =>
      if opening.creates then
        set (machine.create place (.file []) (some (newMode machine.process)))
        make (opening.channel place)
      else refuse .notFound
  | .ok (.found place) => do
    match machine.tree.get? place with
    | some (.file _) => do
      if opening = .write && (← hasOption 'C') then refuse .alreadyThere
      else do
        if opening.empties then
          set (machine.setContent place [])
        make (opening.channel place)
    | some .directory => if opening.creates then refuse .isDirectory else make .directory
    | some (.device .null) => make .null
    | some (.device .full) => make .full
    | some (.device .zero) => make .zeros
    | some (.device (.stream stream)) => use (← streamChannel? stream)
    | some (.program _) =>
      if opening.creates then refuse .permissionDenied else make (.source [] 0)
    | some (.link _) | none => refuse .notFound

def openPath (opening : Opening) (path : List Char) : Exec Nat := do
  match (← openChannel opening path) with
  | .ok number => pure number
  | .error error => fail (opening.complaint path error)

def expandRedirection (run : Command → Exec (List Char)) : Redirection → Exec (Nat × Target)
  | .mk stream target => do
    let path (opening : Opening) (word : Word) : Exec (Nat × Target) := do
      pure (stream, .path opening (← expandText run word))
    match target with
    | .readFrom word => path .read word
    | .writeTo word => path .write word
    | .overwrite word => path .overwrite word
    | .appendTo word => path .append word
    | .readWrite word => path .readWrite word
    | .document number => pure (stream, .document number)
    | .copyOf word => do
      match (← expandText run word) with
      | ['-'] => pure (stream, .nothing)
      | [digit] =>
        if digit.isDigit then pure (stream, .copy (Text.digitsValue 10 [digit])) else badStream
      | _ => badStream
where
  badStream : Exec (Nat × Target) := do
    changeProcess fun process => { process with line := process.lineRead }
    fail "Syntax error: Bad fd number".toList

/-- Carry out a redirection. If the stream was put away before, it is not there for the complaint
that its new channel is missing. -/
def redirect (run : Command → Exec (List Char)) (putAway : Bool) (stream : Nat) :
    Target → Exec Unit
  | .path opening path => do
    setStream stream (some (← openPath opening path))
  | .nothing => setStream stream none
  | .copy other => do
    if other ≠ stream then
      match (← streamChannel? other) with
      | some number => setStream stream (some number)
      | none => do
        if putAway then setStream stream none
        fail (decimal other ++ ": Bad file descriptor".toList)
  | .document number => do
    let machine ← get
    let text ← expandText run ((machine.documents.lookup number).getD [])
    setStream stream (some (← newChannel (.source text 0)))

/-- Carry out redirections one after the other. If the streams are to be given back, each is put
away before it is redirected for the first time. -/
def redirectAll (run : Command → Exec (List Char)) (kept : Bool) (targets : List (Nat × Target)) :
    Exec Unit :=
  targets.zipIdx.forM fun ((stream, target), index) =>
    redirect run (kept && !(targets.take index).any (·.1 = stream)) stream target

end Exec

end HouseStyle.Shell
