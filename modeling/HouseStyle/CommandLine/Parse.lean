import HouseStyle.CommandLine.Basic

namespace HouseStyle

inductive OptionKey where
  | verbose
  | settings
  | directory
  | recursive
  | output
  | format
  | rules
  | exclude
  | force
  | version
  | help
  deriving DecidableEq, Repr

inductive CommandName where
  | listRules
  | writeSettings
  deriving DecidableEq, Repr

namespace CommandName

def ofArgument? (argument : Path) : Option CommandName :=
  if argument = "list-rules" then some listRules
  else if argument = "init" then some writeSettings
  else none

end CommandName

namespace OptionKey

def all : List OptionKey :=
  [verbose, settings, directory, recursive, output, format, rules, exclude, force, version, help]

def long : OptionKey → String
  | verbose => "verbose"
  | settings => "config"
  | directory => "dir"
  | recursive => "recursive"
  | output => "output"
  | format => "format"
  | rules => "rules"
  | exclude => "exclude"
  | force => "force"
  | version => "version"
  | help => "help"

def short? : OptionKey → Option Char
  | verbose => some 'v'
  | settings => some 'c'
  | directory => some 'd'
  | recursive => some 'r'
  | output => some 'o'
  | format => some 'f'
  | exclude => some 'e'
  | version => some 'V'
  | help => some 'h'
  | rules | force => none

def takesValue : OptionKey → Bool
  | settings | directory | output | format | rules | exclude => true
  | verbose | recursive | force | version | help => false

def isRepeatable (key : OptionKey) : Bool :=
  key = exclude

def acceptsValue (value : Path) : OptionKey → Bool
  | settings | directory | output => value.bytes ≠ []
  | format => (value.text?.bind Format.ofName?).isSome
  | rules | exclude => value.text?.isSome
  | _ => true

def isKnownAfter : Option CommandName → OptionKey → Bool
  | none, key => key ≠ force
  | some .listRules, key => key ∈ [verbose, settings, help]
  | some .writeSettings, key => key ∈ [verbose, settings, help, force]

def ofLong? (command : Option CommandName) (name : Path) : Option OptionKey :=
  all.find? fun key => key.isKnownAfter command && Path.ofText key.long = name

def ofShort? (command : Option CommandName) (letter : UInt8) : Option OptionKey :=
  all.find? fun key => key.isKnownAfter command && key.short?.any (·.toNat = letter.toNat)

end OptionKey

structure ArgumentScan where
  command : Option CommandName := none
  options : List (OptionKey × Path) := []
  commandOptions : List (OptionKey × Path) := []
  files : List Path := []
  pending : Option OptionKey := none
  held : Option (OptionKey × Path) := none
  afterFile : Bool := false
  onlyFiles : Bool := false

namespace ArgumentScan

def dash : UInt8 := 0x2D

def equals : UInt8 := 0x3D

abbrev Step := Except CommandLine

def levelOptions (scan : ArgumentScan) : List (OptionKey × Path) :=
  if scan.command.isSome then scan.commandOptions else scan.options

def give (scan : ArgumentScan) (key : OptionKey) (value : Path) : Step ArgumentScan :=
  if !key.acceptsValue value then .error .misuse
  else if !key.isRepeatable && (scan.levelOptions.lookup key).isSome then .error .misuse
  else
    let scan := { scan with pending := none, afterFile := false }
    match scan.command with
    | some _ => .ok { scan with commandOptions := scan.commandOptions ++ [(key, value)] }
    | none => .ok { scan with options := scan.options ++ [(key, value)] }

def settle (scan : ArgumentScan) : Step ArgumentScan :=
  match scan.held with
  | none => .ok scan
  | some (key, value) => ({ scan with held := none }).give key value

def hold (scan : ArgumentScan) (key : OptionKey) (value : Path) : ArgumentScan :=
  { scan with pending := none, held := some (key, value) }

def giveFlag (scan : ArgumentScan) : OptionKey → Step ArgumentScan
  | .version => .error .version
  | .help => .error .help
  | key => scan.give key ⟨[]⟩

def await (scan : ArgumentScan) (key : OptionKey) : ArgumentScan :=
  { scan with pending := some key, afterFile := false }

def long (scan : ArgumentScan) (bytes : List UInt8) : Step ArgumentScan :=
  let value? : Option Path := match bytes.dropWhile (· ≠ equals) with
    | [] => none
    | _ :: value => some ⟨value⟩
  match OptionKey.ofLong? scan.command ⟨bytes.takeWhile (· ≠ equals)⟩ with
  | none => .error .misuse
  | some key =>
    match key.takesValue, value? with
    | true, some value => scan.give key value
    | true, none => .ok (scan.await key)
    | false, some _ => .error .misuse
    | false, none => scan.giveFlag key

def short (scan : ArgumentScan) : List UInt8 → Step ArgumentScan
  | [] => .ok scan
  | letter :: rest =>
    match OptionKey.ofShort? scan.command letter with
    | none => .error .misuse
    | some key =>
      if key.takesValue then
        match rest with
        | [] => .ok (scan.await key)
        | first :: value => scan.give key ⟨if first = equals then value else first :: value⟩
      else do (← scan.giveFlag key).short rest

def file (scan : ArgumentScan) (path : Path) : Step ArgumentScan :=
  if scan.command.isSome || path.bytes = [] then .error .misuse
  else .ok { scan with files := scan.files ++ [path], afterFile := true }

def step (scan : ArgumentScan) (argument : Path) : Step ArgumentScan :=
  let isOption := argument.bytes.head? = some dash && argument.bytes.length > 1
  if scan.onlyFiles then do (← scan.settle).file argument
  else match scan.pending with
    | some key => if isOption then .error .misuse else .ok (scan.hold key argument)
    | none =>
      if argument.bytes = [dash, dash] then .ok { scan with onlyFiles := true }
      else if [dash, dash].isPrefixOf argument.bytes then do
        (← scan.settle).long (argument.bytes.drop 2)
      else if isOption then do (← scan.settle).short (argument.bytes.drop 1)
      else do (← scan.settle).file argument

def allowsCommand (scan : ArgumentScan) : Bool :=
  !scan.onlyFiles && scan.pending.isNone && !scan.afterFile && scan.command.isNone

def helpRequest : List Path → CommandLine
  | [] => .help
  | [name] => if name = "help" || (CommandName.ofArgument? name).isSome then .help else .misuse
  | _ => .misuse

def run (scan : ArgumentScan) : List Path → Step ArgumentScan
  | [] => if scan.pending.isSome then .error .misuse else scan.settle
  | argument :: rest =>
    if scan.allowsCommand && argument = "help" then .error (helpRequest rest)
    else match scan.allowsCommand, CommandName.ofArgument? argument with
      | true, some command => do
        let inner ← run { scan with command, held := none } rest
        pure { inner with options := (← scan.settle).options }
      | _, _ => do (← scan.step argument).run rest

/-! ## The order that was read -/

def has (scan : ArgumentScan) (key : OptionKey) : Bool :=
  ((scan.options ++ scan.commandOptions).lookup key).isSome

def value? (scan : ArgumentScan) (key : OptionKey) : Option Path :=
  (scan.commandOptions ++ scan.options).lookup key

def text? (scan : ArgumentScan) (key : OptionKey) : Option String :=
  (scan.value? key).bind (·.text?)

def checkOptions (scan : ArgumentScan) : CheckOptions :=
  { files := scan.files
    directory := scan.value? .directory
    recursive := scan.has .recursive
    output := scan.value? .output
    format := ((scan.text? .format).bind Format.ofName?).getD .text
    rules := scan.text? .rules
    exclude := (scan.options.filter (·.1 = .exclude)).filterMap (·.2.text?) }

def order (scan : ArgumentScan) : Order :=
  { verbose := scan.has .verbose
    settings := scan.value? .settings
    action := match scan.command with
      | none => .check scan.checkOptions
      | some .listRules => .listRules
      | some .writeSettings => .writeSettings (scan.has .force) }

end ArgumentScan

namespace CommandLine

def parse (arguments : List Path) : CommandLine :=
  match ({} : ArgumentScan).run arguments with
  | .ok scan => .order scan.order
  | .error ending => ending

end CommandLine

end HouseStyle
