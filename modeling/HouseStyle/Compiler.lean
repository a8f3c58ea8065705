import HouseStyle.Path

namespace HouseStyle

structure Compiler where
  tool : String := "gcc"
  flags : List String := ["-Wall"]
  limit : Option Nat := none
  deriving DecidableEq, Repr

namespace Compiler

def arguments (compiler : Compiler) (path : Path) : List Path :=
  compiler.flags.map .ofText ++ [Path.ofText "-c", path, Path.ofText "-o", Path.ofText "/dev/null"]

end Compiler

inductive CheckOutcome where
  | passed
  | failed (diagnostics : String)
  deriving DecidableEq, Repr

inductive CheckError where
  | notFound (tool : String)
  | timedOut (tool : String) (limit : Nat)
  | io (tool : String) (reason : String)
  deriving DecidableEq, Repr

namespace CheckError

def message : CheckError → String
  | notFound tool => tool ++ " not found - cannot test compilation"
  | timedOut tool limit => tool ++ " timed out after " ++ toString (limit / 1000) ++ "s"
  | io tool reason => "failed to run " ++ tool ++ ": " ++ reason

end CheckError

abbrev Checker := Path → Except CheckError CheckOutcome

end HouseStyle
