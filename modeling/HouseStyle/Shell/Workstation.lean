import HouseStyle.Host.Process
import HouseStyle.Shell.Session

/-!
# A workstation with a shell

One way in which the programs of a machine can behave: there are an interpreter for scripts and the
small programs that scripts use. A program is started by its name, which is looked up in the program
directories, or by its path.
-/

namespace HouseStyle.Shell.Workstation

def programDirectory : String := "/usr/bin"

def programDirectories : List String := [programDirectory, "/bin"]

def devices : List (Path × Entry) :=
  [("/bin", .link "usr/bin"), ("/tmp", .directory), ("/dev/null", .device .null),
    ("/dev/full", .device .full), ("/dev/zero", .device .zero),
    ("/dev/stdin", .link "/proc/self/fd/0"), ("/dev/stdout", .link "/proc/self/fd/1"),
    ("/dev/stderr", .link "/proc/self/fd/2"), ("/dev/fd", .link "/proc/self/fd"),
    ("/proc/self/fd/0", .device (.stream 0)), ("/proc/self/fd/1", .device (.stream 1)),
    ("/proc/self/fd/2", .device (.stream 2))]

def baseTree : FileTree :=
  let tree := devices.foldl (fun tree (path, entry) => tree.add [] path entry) .empty
  Program.names.foldl (fun tree (name, _) =>
    tree.add [] (programDirectory ++ "/" ++ name) (.program name)) tree

def programAt? (tree : FileTree) (here : Place) (path : Path) : Except FileError Program :=
  match tree.find here path with
  | .ok (_, .program name) => (Program.ofName? name).elim (.error .permissionDenied) .ok
  | .ok _ => .error .permissionDenied
  | .error error => .error error

def program? (host : Host) (name : Path) : Except FileError Program :=
  if Path.separator ∈ name.bytes then programAt? host.tree host.here name
  else if name.bytes = [] then .error .notFound
  else if name.bytes.length > FileTree.maxName then .error .nameTooLong
  else
    let found := programDirectories.map fun directory =>
      programAt? host.tree [] (Path.ofText directory |>.join name)
    match found.filterMap Except.toOption with
    | program :: _ => .ok program
    | [] =>
      -- What is there but cannot be run counts for more than what is not there.
      if found.any fun result => result matches .error .permissionDenied then
        .error .permissionDenied
      else .error .notFound

def environment (host : Host) : List (List Char × List Char) :=
  let named (name : String) (value : Option Path) : List (List Char × List Char) :=
    value.toList.map fun value => (name.toList, Exec.ofPath value.bytes)
  named "PATH" (some (":".intercalate programDirectories)) ++ named "HOME" host.home ++
    named "CSTYLE_CONFIG_DIR" host.settingsDirectory ++
    [("PWD".toList, Exec.absolutePath host.here)]

def runProgram (host : Host) (name : Path) (arguments : List Path) (program : Program)
    (limit : Option Nat) : Outcome :=
  run (.start host.tree host.here (environment host) limit) program (Exec.ofPath name.bytes)
    (arguments.map fun argument => Exec.ofPath argument.bytes)

def nulReason : String := "nul byte found in provided data"

def ending (limit : Option Nat) (outcome : Outcome) : ProcessEnd :=
  match limit.filter fun limit => outcome.elapsed.all (limit ≤ ·) with
  | some limit => .overran limit
  | none => .exited (outcome.status = 0) outcome.errors

def processes : Processes := fun host invocation =>
  let tool := Path.ofText invocation.tool
  if (tool :: invocation.arguments).any (0 ∈ ·.bytes) then (.broken nulReason, host.tree)
  else match program? host tool with
    | .error .notFound => (.notFound, host.tree)
    | .error error => (.broken error.message, host.tree)
    | .ok program =>
      let outcome := runProgram host tool invocation.arguments program invocation.limit
      (ending invocation.limit outcome, outcome.tree)

end HouseStyle.Shell.Workstation
