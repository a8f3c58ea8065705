import HouseStyle.Shell.Awk.Run

namespace HouseStyle.Shell.Exec

open Awk

structure ScanOptions where
  separator : Option (List Char) := none
  settings : List (String × List Char) := []
  files : List (List Char) := []
  operands : List (List Char) := []
  asksUsage : Bool := false

def scanUsage : String :=
  "Usage: mawk [Options] [Program] [file ...]

Program:
    The -f option value is the name of a file containing program text.
    If no -f option is given, a \"--\" ends option processing; the following
    parameters are the program text.

Options:
    -f program-file  Program  text is read from file instead of from the
                     command-line.  Multiple -f options are accepted.
    -F value         sets the field separator, FS, to value.
    -v var=value     assigns value to program variable var.
    --               unambiguous end of options.

    Implementation-specific options are prefixed with \"-W\".  They can be
    abbreviated:

    -W version       show version information and exit.
    -W dump          show assembler-like listing of program and exit.
    -W help          show this message and exit.
    -W interactive   set unbuffered output, line-buffered input.
    -W exec file     use file as program as well as last option.
    -W random=number set initial random seed.
    -W sprintf=number adjust size of sprintf buffer.
    -W posix_space   do not consider \"\\n\" a space.
    -W usage         show this message and exit.
"

def scanWords : List String :=
  ["version", "dump", "help", "interactive", "exec", "random", "sprintf", "posix_space", "usage"]

def scanOptions : Nat → ScanOptions → List (List Char) → Exec (Except Nat ScanOptions)
  | 0, options, _ => pure (.ok options)
  | steps + 1, options, words => do
    let refuse (message : List Char) : Exec (Except Nat ScanOptions) := do
      programError message
      pure (.error 2)
    match words with
    | ['-', '-'] :: rest => pure (.ok { options with operands := rest })
    | ('-' :: letter :: attached) :: rest =>
      if !(['F', 'v', 'f', 'W'].contains letter) then
        refuse ("not an option: ".toList ++ '-' :: letter :: attached)
      else
        let value? : Option (List Char × List (List Char)) := match attached, rest with
          | [], [] => none
          | [], value :: rest => some (value, rest)
          | value, rest => some (value, rest)
        match value? with
        | none => refuse ("option -".toList ++ letter :: " lacks argument".toList)
        | some (value, rest) =>
          match letter with
          | 'F' => scanOptions steps { options with separator := some value } rest
          | 'f' => scanOptions steps { options with files := options.files ++ [value] } rest
          | 'v' =>
            match Scan.setting? value with
            | some found =>
              scanOptions steps { options with settings := options.settings ++ [found] } rest
            | none => refuse ("improper assignment: -v ".toList ++ value)
          | _ => do
            match scanWords.find? fun name => value.isPrefixOf name.toList with
            | some "help" | some "usage" => pure (.ok { options with asksUsage := true })
            | some _ => scanOptions steps options rest
            | none => do
              programError ("vacuous option: -W \"".toList ++ value ++ ['"'])
              scanOptions steps options rest
    | operands => pure (.ok { options with operands })

def scanProgram : List (List Char) → Exec (Except Nat (List Char))
  | [] => pure (.ok [])
  | path :: rest => do
    match (← readPath path) with
    | .ok text => do
      match (← scanProgram rest) with
      | .ok more => pure (.ok (if more = [] then text else text ++ '\n' :: more))
      | .error status => pure (.error status)
    | .error "Is a directory" => do
      programError "read error (Is a directory)".toList
      pure (.error 2)
    | .error reason => do
      programError ("cannot open \"".toList ++ path ++ "\" (".toList ++ reason.toList ++ [')'])
      pure (.error 2)

def prepareScan (options : ScanOptions) (operands : List (List Char)) : Awk.Scan Unit := do
  [("NR", .number 0), ("FNR", .number 0), ("FS", .text [' ']), ("RS", .text ['\n']),
    ("OFS", .text [' ']), ("ORS", .text ['\n']), ("SUBSEP", .text ['\x1c']),
    ("FILENAME", .text []), ("CONVFMT", .text "%.6g".toList), ("OFMT", .text "%.6g".toList),
    ("ARGC", Value.ofNat (operands.length + 1))].forM fun (name, value) =>
    Scan.setGlobal name value
  let name := (← Scan.ofExec process).name
  let fill (table : String) (entries : List (Key × List Char)) : Awk.Scan Unit := do
    let number ← Scan.tableNumber table
    Scan.setTable number (entries.foldl (fun table (key, value) =>
      table.set key (.input value)) {})
  fill "ARGV" ((name :: operands).zipIdx.map fun (word, index) => (.whole index, word))
  let exports ← Scan.ofExec environment
  fill "ENVIRON" (exports.map fun (name, value) => (.text name, value))
  match options.separator with
  | some text => Scan.applySetting "FS" text
  | none => pure ()
  options.settings.forM fun (name, value) => Scan.applySetting name value

def runScan (launch : Launch) (options : ScanOptions) (program : Awk.Program)
    (operands : List (List Char)) : Exec Nat := do
  let run : Awk.Scan Unit := do
    prepareScan options operands
    Scan.all launch program
  let start : Scanner := { functions := program.functions, steps := Scan.maxSteps }
  let (_, scanner) ← StateT.run run.run start
  pure scanner.status

def awk (launch : Launch) (words : List (List Char)) : Exec Nat := do
  match (← scanOptions (words.length + 1) {} words) with
  | .error status => pure status
  | .ok options =>
    let usage : Exec Nat := do
      report scanUsage.toList
      pure 0
    let start (file : Option (List Char)) (text : List Char) (operands : List (List Char)) :
        Exec Nat := do
      match Awk.Program.ofText text with
      | .ok program => runScan launch options program operands
      | .error complaints => do
        complaints.forM fun complaint => programError (complaint.text file)
        pure 2
    if options.asksUsage then usage
    else match options.files, options.operands with
      | [], [] => usage
      | [], ['-'] :: _ => pure 0
      | [], text :: operands => start none text operands
      | file :: _, operands => do
        match (← scanProgram options.files) with
        | .ok text => start (some file) text operands
        | .error status => pure status

end HouseStyle.Shell.Exec
