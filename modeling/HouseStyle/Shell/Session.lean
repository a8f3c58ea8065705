import HouseStyle.Shell.Run

/-!
# Sessions

A session is the run of a program from the start of its process to its end. It has no input, and of
what it writes only the errors are kept.
-/

namespace HouseStyle.Shell

/-- What is known of a process that came to its end: its status, what it wrote to the stream of
errors, how many milliseconds passed until nobody could write there any more, and the files that it
left. There is no such time if it has no end. -/
structure Outcome where
  status : Nat
  errors : List UInt8
  elapsed : Option Nat
  tree : FileTree

def maxNesting : Nat := 100000

def maxSteps : Nat := 5000000

def stepsWithin (time : Nat) : Nat :=
  Nat.min maxSteps (20000 + 1000 * time)

def Machine.start (tree : FileTree) (here : Place) (environment : List (List Char × List Char))
    (limit : Option Nat) : Machine :=
  { tree
    channels := [(Exec.errorChannel, .sink [] none), (1, .null)]
    nextChannel := 2
    steps := limit.elim maxSteps stepsWithin
    limit := limit.map (1000 * ·)
    process := {
      name := []
      bindings := environment.map fun (name, value) =>
        (name, { value := some value, exported := true })
      here
      directory := Exec.absolutePath here
      streams := [(0, 1), (1, 1), (2, Exec.errorChannel)] } }

def Machine.silence (machine : Machine) : Nat :=
  machine.jobs.foldl (fun time job => Nat.max time job.holds) (Nat.max machine.clock machine.held)

def run (machine : Machine) (program : Program) (name : List Char) (arguments : List (List Char)) :
    Outcome :=
  let (result, machine) := (Exec.execute maxNesting { program, name, arguments }).run.run machine
  let errors := match machine.channels.lookup Exec.errorChannel with
    | some (.sink pieces _) => toBytes (Exec.sunk pieces)
    | _ => []
  let outcome (status : Nat) : Outcome :=
    { status, errors, elapsed := some (machine.silence / 1000), tree := machine.tree }
  match result with
  | .error .endless => { outcome 1 with elapsed := none }
  | .error (.killed _ signal) | .error (.died signal) => outcome (128 + signal)
  | _ => outcome (machine.process.status % 256)

end HouseStyle.Shell
