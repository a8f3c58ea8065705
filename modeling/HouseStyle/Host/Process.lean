import HouseStyle.Compiler
import HouseStyle.Host.Basic

/-!
# Processes

A compiler is a program of the machine, and nothing is known about what such a program does: which
of them there are, how they end and which files they leave is a parameter of every run. What follows
from the end of a process is not.
-/

namespace HouseStyle

structure Invocation where
  tool : String
  arguments : List Path
  limit : Option Nat
  deriving DecidableEq, Repr

inductive ProcessEnd where
  | exited (success : Bool) (errors : List UInt8)
  | notFound
  | overran (limit : Nat)
  | broken (reason : String)
  deriving DecidableEq, Repr

/-- What the programs of a machine do: how a process ends on a host, and the files that it leaves. -/
abbrev Processes := Host → Invocation → ProcessEnd × FileTree

namespace Compiler

def invocation (compiler : Compiler) (path : Path) : Invocation :=
  ⟨compiler.tool, compiler.arguments path, compiler.limit⟩

def verdict (compiler : Compiler) : ProcessEnd → Except CheckError CheckOutcome
  | .exited true _ => .ok .passed
  | .exited false errors => .ok (.failed (String.ofList (Text.decodeLossy errors)))
  | .notFound => .error (.notFound compiler.tool)
  | .overran limit => .error (.timedOut compiler.tool limit)
  | .broken reason => .error (.io compiler.tool reason)

end Compiler

namespace Host

/-- Run a compiler on a file. It can leave other files on the host. -/
def runCompiler (processes : Processes) (host : Host) (compiler : Compiler) (path : Path) :
    Except CheckError CheckOutcome × Host :=
  let (ending, tree) := processes host (compiler.invocation path)
  (compiler.verdict ending, { host with tree })

def compile (processes : Processes) (host : Host) (compiler : Compiler) : Checker := fun path =>
  (host.runCompiler processes compiler path).1

end Host

end HouseStyle
