import HouseStyle.Shell.DateText
import HouseStyle.Shell.FileQuery
import HouseStyle.Shell.Printing
import HouseStyle.Shell.Redirection
import HouseStyle.Shell.Regex.Spelling
import HouseStyle.Shell.Utility.Listing
import HouseStyle.Shell.Utility.Running
import HouseStyle.Shell.Utility.Search

namespace HouseStyle.Shell

open FileQuery

inductive Following where
  | never
  | first
  | always
  deriving DecidableEq, Repr

structure FileSearch where
  following : Following := .never
  least : Nat := 0
  most : Option Nat := none
  inward : Bool := false
  tokens : Tokens := []
  lastName : List Char := []
  dialect : List Char := "findutils-default".toList
  batches : Nat := 0
  acts : Bool := false

structure Met where
  path : List Char
  start : List Char
  depth : Nat
  place : Place
  entry : Entry
  named : Place

structure Walking where
  pruned : Bool := false
  finished : Bool := false
  status : Nat := 0
  /-- The paths for commands that get many, each under the number of its command, and the directory
  in which it is run. -/
  batches : List (Nat × Option Place × List (List Char)) := []

namespace Exec

/-! ## Reading queries -/

def isQueryWord (leading : Bool) (word : List Char) : Bool :=
  match word with
  | '-' :: _ :: _ => true
  | ['!'] | ['('] => true
  | [')'] | [','] => !leading
  | _ => false

def queryAmount? (word : List Char) : Option Amount :=
  let ofDigits (word : List Char) : Option Nat :=
    let digits := if word.head? = some '+' then word.tail else word
    if digits ≠ [] && digits.all Char.isDigit then some (Text.digitsValue 10 digits) else none
  match word with
  | '+' :: rest => (ofDigits rest).map .more
  | '-' :: rest => (ofDigits rest).map .less
  | word => (ofDigits word).map .equal

def sortsOf (name word : List Char) : Except (List Char) (List Char) :=
  if word = [] then
    .error ("Arguments to ".toList ++ name ++ " should contain at least one letter".toList)
  else go (word.length + 1) [] word
where
  go : Nat → List Char → List Char → Except (List Char) (List Char)
    | 0, found, _ => .ok found
    | _ + 1, found, [] => .ok found
    | steps + 1, found, c :: rest =>
      if !"bcdflpsD".toList.contains c then
        .error ("Unknown argument to ".toList ++ name ++ [':', ' ', c])
      else if found.contains c then
        .error ("Duplicate file type '".toList ++ [c] ++
          "' in the argument list to ".toList ++ name ++ ['.'])
      else match rest with
        | [] => .ok (c :: found)
        | [','] =>
          .error ("Last file type in list argument to ".toList ++ name ++
            " is missing, i.e., list is ending on: ','".toList)
        | ',' :: rest => go steps (c :: found) rest
        | _ =>
          .error ("Must separate multiple arguments to ".toList ++ name ++ " using: ','".toList)

/-- An expression in the usual dialect, in which brackets and bars need backslashes, as one in the
dialect in which they do not. -/
def withoutBackslashes : List Char → List Char
  | '\\' :: c :: rest =>
    if "()|".toList.contains c then c :: withoutBackslashes rest
    else '\\' :: c :: withoutBackslashes rest
  | c :: rest =>
    if "()|\x7b\x7d".toList.contains c then '\\' :: c :: withoutBackslashes rest
    else c :: withoutBackslashes rest
  | [] => []

def dialects : List String :=
  ["findutils-default", "ed", "emacs", "gnu-awk", "grep", "posix-awk", "awk", "posix-basic",
    "posix-egrep", "egrep", "posix-extended", "posix-minimal-basic", "sed"]

def pathPlan? (dialect text : List Char) (folded : Bool) : Option Regex.Plan :=
  let name := String.ofList dialect
  let isUsual := name = "findutils-default" || name = "emacs"
  let isBasic := ["ed", "grep", "posix-basic", "posix-minimal-basic", "sed"].contains name
  let text := if isUsual then withoutBackslashes text else text
  match Regex.ofText { extended := !isBasic } text with
  | .ok regex => some (regex.plan folded false false)
  | .error _ => none

def fitsWhole (plan : Regex.Plan) (text : List Char) : Bool :=
  (plan.at? false Option.isNone [] text).isSome

def sizeUnitOf? (c : Char) : Option Nat :=
  [('b', 512), ('c', 1), ('w', 2), ('k', 1024), ('M', 1048576), ('G', 1073741824)].lookup c

def permissions? (word : List Char) : Option Permissions :=
  let bits? (text : List Char) : Option Nat :=
    if text = [] then none
    else (Mode.ofText? text).map fun changes => Mode.apply false 0 changes 0
  match word with
  | '-' :: text => (bits? text).map .allOf
  | '/' :: text => (bits? text).map .anyOf
  | '+' :: c :: text =>
    if Arithmetic.isOctal c then none else (bits? ('+' :: c :: text)).map .exactly
  | text => (bits? text).map .exactly

abbrev QueryReading := ExceptT Nat (StateT FileSearch Exec)

namespace QueryReading

def ofExec {α : Type} (run : Exec α) : QueryReading α :=
  ExceptT.lift (StateT.lift run)

def refuse {α : Type} (message : List Char) : QueryReading α := do
  ofExec (programError message)
  throw 1

def inTicks (word : List Char) : List Char :=
  '\x60' :: word ++ ['\'']

def fileOf (word : List Char) : QueryReading Place := do
  let follows := (← get).following ≠ .never
  match (← ofExec (entryAt follows word)) with
  | .ok (place, _) => pure place
  | .error error => refuse (shown word ++ [':', ' '] ++ error.reason.toList)

def outputOf (word : List Char) : QueryReading Nat := do
  match (← ofExec (openChannel .overwrite word)) with
  | .ok number => pure number
  | .error error => refuse (shown word ++ [':', ' '] ++ error.reason.toList)

def warnOfFormat : Nat → List Char → QueryReading Unit
  | 0, _ => pure ()
  | _ + 1, [] => pure ()
  | steps + 1, '\\' :: c :: rest => do
    if !("abfnrtvc\\".toList.contains c || Arithmetic.isOctal c) then
      ofExec (programError ("warning: unrecognized escape ".toList ++ inTicks ['\\', c]))
    warnOfFormat steps rest
  | steps + 1, '%' :: rest => do
    let marks := rest.takeWhile fun c => "-+ #0123456789.".toList.contains c
    match rest.drop marks.length with
    | [] => do
      ofExec (programError ("error: ".toList ++ "%s at end of format string".toList))
    | c :: rest => do
      if "ACT".toList.contains c then warnOfFormat steps (rest.drop 1)
      else do
        if !"%abcdDfFgGhHiklmMnpPsStuUyYZ".toList.contains c then
          ofExec (programError ("warning: unrecognized format directive ".toList ++
            inTicks ('%' :: marks ++ [c])))
        warnOfFormat steps rest
  | steps + 1, _ :: rest => warnOfFormat steps rest

def addLeaf (leaf : Leaf) : QueryReading Unit :=
  modify fun finding => { finding with
    tokens := FileQuery.add finding.tokens (.leaf leaf)
    acts := finding.acts || leaf.acts }

def addToken (token : FileQuery.Token) : QueryReading Unit :=
  modify fun finding => { finding with tokens := FileQuery.add finding.tokens token }

def hasBraces : List Char → Bool
  | '\x7b' :: '\x7d' :: _ => true
  | _ :: rest => hasBraces rest
  | [] => false

def commandWords (name : List Char) (canMany : Bool) :
    Nat → List (List Char) → List (List Char) →
      QueryReading (List (List Char) × Bool × List (List Char))
  | 0, _, _ => throw 1
  | _ + 1, _, [] => refuse ("missing argument to ".toList ++ inTicks name)
  | steps + 1, words, word :: rest =>
    let braces := ['\x7b', '\x7d']
    if word = [';'] then
      if words = [] then refuse ("invalid argument ".toList ++ inTicks word ++ " to ".toList ++
        inTicks name)
      else pure (words.reverse, false, rest)
    else if canMany && word = ['+'] && words.head?.any hasBraces then do
      let before := words.tail
      let last := words.headD []
      if last ≠ braces then
        refuse ("In '".toList ++ name ++ " ... \x7b\x7d +' the '\x7b\x7d' must appear by ".toList
          ++ "itself, but you specified ".toList ++ shown last)
      if before.contains braces then
        refuse ("Only one instance of \x7b\x7d is supported with ".toList ++ name ++
          " ... +".toList)
      if before = [] then
        refuse ("invalid argument ".toList ++ inTicks word ++ " to ".toList ++ inTicks name)
      pure (before.reverse, true, rest)
    else commandWords name canMany steps (word :: words) rest

def words : Nat → List (List Char) → QueryReading Unit
  | 0, _ => pure ()
  | _ + 1, [] => pure ()
  | steps + 1, name :: rest => do
    let finding ← get
    let text := String.ofList name
    if !isQueryWord false name then do
      ofExec (programError ("paths must precede expression: ".toList ++ inTicks name))
      if ((← ofExec (entryAt true name)).toOption).isSome && finding.lastName ≠ [] then
        ofExec (programError ("possible unquoted pattern after predicate ".toList ++
          inTicks finding.lastName ++ ['?']))
      throw 1
    let isOperator := ["(", ")", "!", ",", "-a", "-o", "-not", "-and", "-or"].contains text
    if !isOperator then modify fun finding => { finding with lastName := name }
    let leaf (leaf : Leaf) : QueryReading Unit := do
      addLeaf leaf
      words steps rest
    let token (token : FileQuery.Token) : QueryReading Unit := do
      addToken token
      words steps rest
    let note (change : FileSearch → FileSearch) : QueryReading Unit := do
      modify change
      addLeaf (.constant true)
      words steps rest
    let valued (make : List Char → QueryReading Leaf) : QueryReading Unit := do
      match rest with
      | [] => refuse ("missing argument to ".toList ++ inTicks name)
      | value :: rest => do
        addLeaf (← make value)
        words steps rest
    let amount (make : Amount → Leaf) : QueryReading Unit :=
      valued fun value => do
        match queryAmount? value with
        | some amount => pure (make amount)
        | none =>
          refuse ("invalid argument ".toList ++ inTicks value ++ " to ".toList ++ inTicks name)
    let pattern (make : List GlobToken → Bool → Leaf) (folded : Bool) : QueryReading Unit :=
      valued fun value =>
        pure (make (FileChoice.plainPattern (if folded then value.map Char.toLower else value))
          folded)
    let depth (change : Nat → FileSearch → FileSearch) : QueryReading Unit :=
      valued fun value => do
        if value ≠ [] && value.all Char.isDigit then do
          modify (change (Text.digitsValue 10 value))
          pure (.constant true)
        else refuse ("Expected a positive decimal integer argument to ".toList ++ name ++
          ", but got ".toList ++ shown value)
    let spelled (folded : Bool) : QueryReading Unit :=
      valued fun value => do
        match pathPlan? (← get).dialect value folded with
        | some plan => pure (.spelled plan)
        | none => refuse ("failed to compile regular expression ".toList ++ shown value ++
          ": Invalid regular expression".toList)
    let owner (what known : String) : QueryReading Unit :=
      valued fun value => do
        if value = "root".toList then pure (.owner (.equal 0))
        else if value ≠ [] && value.all Char.isDigit then
          pure (.owner (.equal (Text.digitsValue 10 value)))
        else refuse (shown value ++ (" is not the name of " ++ known ++ " " ++ what).toList)
    let command (inside asks : Bool) : QueryReading Unit := do
      let (found, many, rest) ← commandWords name (!asks) (rest.length + 1) [] rest
      if many then do
        match found.find? hasBraces with
        | some word =>
          refuse ("In '".toList ++ name ++ " ... \x7b\x7d +' the '\x7b\x7d' must appear by ".toList
            ++ "itself, but you specified ".toList ++ shown word)
        | none => pure ()
        addLeaf (.runAll finding.batches found inside)
        modify fun finding => { finding with batches := finding.batches + 1 }
      else addLeaf (.run found inside asks)
      words steps rest
    match text with
    | "(" => token .opening
    | ")" => token .closing
    | "!" | "-not" => token (.negation name)
    | "-a" | "-and" => token (.operator .both name)
    | "-o" | "-or" => token (.operator .either name)
    | "," => token (.operator .last name)
    | "-true" => leaf (.constant true)
    | "-false" | "-nouser" | "-nogroup" => leaf (.constant false)
    | "-depth" | "-d" => note fun finding => { finding with inward := true }
    | "-follow" => note fun finding => { finding with following := .always }
    | "-mount" | "-xdev" | "-noleaf" | "-daystart" | "-warn" | "-nowarn" | "-ignore_readdir_race"
    | "-noignore_readdir_race" => note id
    | "-maxdepth" => depth fun depth finding => { finding with most := some depth }
    | "-mindepth" => depth fun depth finding => { finding with least := depth }
    | "-name" => pattern .name false
    | "-iname" => pattern .name true
    | "-path" | "-wholename" => pattern .path false
    | "-ipath" | "-iwholename" => pattern .path true
    | "-lname" => pattern .target false
    | "-ilname" => pattern .target true
    | "-regextype" => valued fun value => do
      if !dialects.contains (String.ofList value) then
        refuse ("Unknown regular expression type ".toList ++ shown value ++
          "; valid types are ".toList ++
          ", ".toList.intercalate (dialects.map fun name => shown name.toList) ++ ['.'])
      modify fun finding => { finding with dialect := value }
      pure (.constant true)
    | "-regex" => spelled false
    | "-iregex" => spelled true
    | "-type" | "-xtype" => valued fun value => do
      match sortsOf name value with
      | .ok letters => pure (.sort letters (text = "-xtype"))
      | .error message => refuse message
    | "-empty" => leaf .empty
    | "-size" => valued fun value => do
      match value.getLast? with
      | none => refuse "invalid null argument to -size".toList
      | some c =>
        match sizeUnitOf? c, c.isDigit with
        | none, false => refuse ("invalid -size type ".toList ++ inTicks [c])
        | unit, _ =>
          match queryAmount? (if unit.isSome then value.dropLast else value) with
          | some amount => pure (.size amount (unit.getD 512))
          | none => refuse ("Invalid argument ".toList ++ inTicks value ++ " to -size".toList)
    | "-links" => amount .links
    | "-uid" | "-gid" => amount .owner
    | "-inum" => amount fun _ => .constant false
    | "-user" => owner "user" "a known"
    | "-group" => owner "group" "an existing"
    | "-newer" | "-anewer" | "-cnewer" => valued fun value => do
      let place ← fileOf value
      pure (.newer (← ofExec (timeAt place)))
    | "-samefile" => valued fun value => do pure (.same (← fileOf value))
    | "-mtime" | "-atime" => amount fun amount => .age amount 86400 false
    | "-mmin" | "-amin" => amount fun amount => .age amount 60 false
    | "-ctime" => amount fun amount => .age amount 86400 true
    | "-cmin" => amount fun amount => .age amount 60 true
    | "-perm" => valued fun value => do
      match permissions? value with
      | some permissions => pure (.mode permissions)
      | none => refuse ("invalid mode ".toList ++ shown value)
    | "-readable" | "-writable" => leaf (.constant true)
    | "-executable" => leaf .runnable
    | "-print" => leaf (.print '\n' none)
    | "-print0" => leaf (.print '\x00' none)
    | "-fprint" => valued fun value => do pure (.print '\n' (some (← outputOf value)))
    | "-fprint0" => valued fun value => do pure (.print '\x00' (some (← outputOf value)))
    | "-printf" => valued fun value => do
      warnOfFormat (value.length + 1) value
      pure (.format value none)
    | "-fprintf" =>
      match rest with
      | [] => refuse ("missing argument to ".toList ++ inTicks name)
      | [path] =>
        refuse ("invalid argument ".toList ++ inTicks path ++ " to ".toList ++ inTicks name)
      | path :: format :: rest => do
        let number ← outputOf path
        warnOfFormat (format.length + 1) format
        addLeaf (.format format (some number))
        words steps rest
    | "-ls" => leaf (.list none)
    | "-fls" => valued fun value => do pure (.list (some (← outputOf value)))
    | "-delete" => do
      modify fun finding => { finding with inward := true }
      leaf .delete
    | "-prune" => leaf .prune
    | "-quit" => leaf .quit
    | "-exec" => command false false
    | "-execdir" => command true false
    | "-ok" => command false true
    | "-okdir" => command true true
    | _ =>
      match name.drop 6 with
      | [first, second] =>
        if "-newer".toList.isPrefixOf name then
          if "aBcm".toList.contains first && "aBcmt".toList.contains second then
            valued fun value => do
              if second = 't' then do
                let now := (← ofExec get).now
                match DateText.ofWords? now value with
                | some time => pure (.newer time)
                | none => refuse ("I cannot figure out how to interpret ".toList ++ shown value ++
                  " as a date or time".toList)
              else do
                let place ← fileOf value
                pure (.newer (← ofExec (timeAt place)))
          else refuse ("invalid predicate ".toList ++ inTicks name)
        else refuse ("unknown predicate ".toList ++ inTicks name)
      | _ => refuse ("unknown predicate ".toList ++ inTicks name)

end QueryReading

/-! ## Formats -/

def metName (path : List Char) : List Char :=
  baseName path

def metDirectory (path : List Char) : List Char :=
  let path := if path.all (· = '/') then path else withoutSlashes path
  if path.contains '/' then
    ((path.reverse.dropWhile (· ≠ '/')).drop 1).reverse
  else ['.']

def sortOf : Entry → Char
  | .directory => 'd'
  | .link _ => 'l'
  | .device _ => 'c'
  | _ => 'f'

def fractionOf (time : Int) : List Char :=
  '.' :: DateFormat.format time "%N".toList ++ ['0']

def metTime (time : Int) (letter : Char) : List Char :=
  let format (pattern : String) : List Char := DateFormat.format time pattern.toList
  match letter with
  | '@' => format "%s" ++ fractionOf time
  | '+' => format "%Y-%m-%d+%H:%M:%S" ++ fractionOf time
  | 'S' => format "%S" ++ fractionOf time
  | 'T' | 'X' => format "%H:%M:%S" ++ fractionOf time
  | 'r' => format "%I:%M:%S" ++ fractionOf time ++ format " %p"
  | letter => DateFormat.format time ['%', letter]

def metPart? (met : Met) (letter : Char) : Exec (Option (List Char)) := do
  let listed ← listedAt [] met.place met.entry
  let kilobytes := Listing.diskSize listed
  let text (text : String) : Exec (Option (List Char)) := pure (some text.toList)
  let number (n : Nat) : Exec (Option (List Char)) := text (toString n)
  match letter with
  | 'p' => pure (some met.path)
  | 'f' => pure (some (metName met.path))
  | 'h' => pure (some (metDirectory met.path))
  | 'H' => pure (some met.start)
  | 'P' =>
    let rest := met.path.drop met.start.length
    pure (some (if met.start.getLast? = some '/' then rest else rest.drop 1))
  | 'd' => number met.depth
  | 's' => number listed.size
  | 'm' => pure (some (Nat.toDigits 8 listed.mode))
  | 'M' => pure (some (Listing.sortLetter met.entry :: Mode.letters listed.mode))
  | 'y' => pure (some [sortOf met.entry])
  | 'Y' =>
    match met.entry, listed.target with
    | .link _, some (_, entry) => pure (some [sortOf entry])
    | .link _, none => text "N"
    | entry, _ => pure (some [sortOf entry])
  | 'l' =>
    match met.entry with
    | .link target => pure (some (ofPath target.bytes))
    | _ => text ""
  | 'u' | 'g' => text "root"
  | 'U' | 'G' => text "0"
  | 'n' => number listed.names
  | 'i' => text "1"
  | 'k' => number kilobytes
  | 'b' => number (2 * kilobytes)
  | 'D' => text "65024"
  | 'F' => text "overlay"
  | 'S' => text "1"
  | 't' | 'a' | 'c' =>
    let start := DateFormat.format listed.time "%a %b %e %H:%M:%S".toList
    pure (some (start ++ fractionOf listed.time ++ DateFormat.format listed.time " %Y".toList))
  | '%' => text "%"
  | _ => pure none

def metText (met : Met) : Nat → List Char → Exec (List Char)
  | 0, _ => pure []
  | _ + 1, [] => pure []
  | steps + 1, '\\' :: c :: rest => do
    if c = 'c' then pure []
    else if Arithmetic.isOctal c then
      let digits := ((c :: rest).take 3).takeWhile Arithmetic.isOctal
      let code := Char.ofNat (Text.digitsValue 8 digits % 256)
      pure (code :: (← metText met steps ((c :: rest).drop digits.length)))
    else
      let meant := match [('a', '\x07'), ('b', '\x08'), ('f', '\x0c'), ('n', '\n'), ('r', '\r'),
          ('t', '\t'), ('v', '\x0b'), ('\\', '\\')].lookup c with
        | some meant => [meant]
        | none => ['\\', c]
      pure (meant ++ (← metText met steps rest))
  | steps + 1, '%' :: rest => do
    let marks := rest.takeWhile fun c => "-+ #0".toList.contains c
    let width := (rest.drop marks.length).takeWhile Char.isDigit
    let behind := rest.drop (marks.length + width.length)
    let precision? := if behind.head? = some '.' then some (behind.tail.takeWhile Char.isDigit)
      else none
    let behind := match precision? with
      | some digits => behind.drop (digits.length + 1)
      | none => behind
    let layout : Layout := {
      flags := marks, width := Text.digitsValue 10 width
      precision := precision?.map (Text.digitsValue 10) }
    match behind with
    | [] => pure ('%' :: rest)
    | letter :: after => do
      let isTime := "ACT".toList.contains letter
      let part? ← if isTime then do
          pure (after.head?.map (metTime (← timeAt met.place)))
        else metPart? met letter
      let after := if isTime then after.drop 1 else after
      let isNumber := "dm".toList.contains letter
      let shown := match part? with
        | some part =>
          if isNumber then layout.fillNumber true [] part else layout.text part
        | none => '%' :: rest.take (rest.length - after.length)
      pure (shown ++ (← metText met steps after))
  | steps + 1, c :: rest => do
    pure (c :: (← metText met steps rest))

def metLine (met : Met) : Exec (List Char) := do
  let listed ← listedAt [] met.place met.entry
  let now := (← get).now
  let digits (n width : Nat) : List Char := Listing.padLeft width (toString n).toList
  let target := match met.entry with
    | .link target => " -> ".toList ++ ofPath target.bytes
    | _ => []
  pure (digits 1 9 ++ [' '] ++ digits (Listing.diskSize listed) 6 ++ [' '] ++
    (Listing.sortLetter met.entry :: Mode.letters listed.mode) ++ [' '] ++ digits listed.names 3 ++
    " root     root     ".toList ++ digits listed.size 8 ++ [' '] ++
    Listing.timeText {} now listed.time ++ [' '] ++ met.path ++ target ++ ['\n'])

/-! ## Asking -/

abbrev Walk := StateT Walking Exec

namespace Walk

def ofExec {α : Type} (run : Exec α) : Walk α :=
  StateT.lift run

def note (status : Nat) : Walk Unit :=
  modify fun walking => { walking with status }

def complain (message : List Char) : Walk Unit := do
  ofExec (programError message)
  note 1

def writeTo (output : Option Nat) (text : List Char) : Walk Unit := do
  match output with
  | none => ofExec (put text)
  | some number => do
    let _ ← ofExec (writeChannel number text)

def filled (path : List Char) : List Char → List Char
  | '\x7b' :: '\x7d' :: rest => path ++ filled path rest
  | c :: rest => c :: filled path rest
  | [] => []

def runIn (launch : Launch) (directory : Option Place) (words : List (List Char)) : Walk Bool := do
  let result ← ofExec do
    let before := (← process).here
    changeProcess fun process => { process with here := directory.getD process.here }
    let result ← launch words
    changeProcess fun process => { process with here := before }
    pure result
  match result with
  | .ok ending => pure (ending.status = 0)
  | .error error => do
    ofExec (programError (shown (words.headD []) ++ [':', ' '] ++ error.reason.toList))
    pure false

def runBatch (launch : Launch) (words : List (List Char)) (directory : Option Place)
    (paths : List (List Char)) : Walk Unit := do
  if paths ≠ [] then
    if !(← runIn launch directory (words ++ paths.reverse)) then note 1

def collect (launch : Launch) (number : Nat) (words : List (List Char)) (directory : Option Place)
    (path : List Char) : Walk Unit := do
  let batches := (← get).batches
  let others := batches.filter (·.1 ≠ number)
  match batches.find? (·.1 = number) with
  | some (_, old, paths) =>
    if old = directory then
      modify fun walking => { walking with
        batches := others ++ [(number, directory, path :: paths)] }
    else do
      runBatch launch words old paths
      modify fun walking => { walking with batches := others ++ [(number, directory, [path])] }
  | none =>
    modify fun walking => { walking with batches := others ++ [(number, directory, [path])] }

def delete (met : Met) : Walk Bool := do
  if met.path = ['.'] then pure true
  else do
    let isFilled := met.entry = .directory &&
      (← ofExec get).tree.below met.place (some 1) ≠ []
    if isFilled then do
      complain ("cannot delete ".toList ++ shown met.path ++ [':', ' '] ++
        FileError.notEmpty.reason.toList)
      pure false
    else do
      ofExec (modify fun machine => machine.remove met.named)
      pure true

def ageFits (amount : Amount) (unit : Nat) (now time : Int) : Bool :=
  let size : Int := unit * 1000000
  let age := now - time
  match amount with
  | .less bound => age < (bound : Int) * size
  | .more bound => ((bound : Int) + 1) * size ≤ age
  | .equal value => (value : Int) * size ≤ age && age < ((value : Int) + 1) * size

def behind (finding : FileSearch) (met : Met) : Walk Entry := do
  let tree := (← ofExec get).tree
  if finding.following = .always then
    pure ((tree.get? met.named).getD met.entry)
  else match met.entry with
    | .link target =>
      match tree.find met.place.dropLast target with
      | .ok (_, entry) => pure entry
      | .error _ => pure met.entry
    | entry => pure entry

def askLeaf (launch : Launch) (finding : FileSearch) (met : Met) : Leaf → Walk Bool
  | .constant value => pure value
  | .name pattern folded =>
    let name := metName met.path
    pure (globMatches pattern (if folded then name.map Char.toLower else name))
  | .path pattern folded =>
    pure (globMatches pattern (if folded then met.path.map Char.toLower else met.path))
  | .target pattern folded =>
    match met.entry with
    | .link target =>
      let text := ofPath target.bytes
      pure (globMatches pattern (if folded then text.map Char.toLower else text))
    | _ => pure false
  | .spelled plan => pure (fitsWhole plan met.path)
  | .sort letters isBehind => do
    let entry ← if isBehind then behind finding met else pure met.entry
    pure (letters.contains (sortOf entry))
  | .empty => do
    match met.entry with
    | .file content => pure (content = [])
    | .directory => pure ((← ofExec get).tree.below met.place (some 1) = [])
    | _ => pure false
  | .size amount unit => do
    let size := (← ofExec (listedAt [] met.place met.entry)).size
    pure (amount.fits ((size + unit - 1) / unit))
  | .links amount => do
    pure (amount.fits (← ofExec (listedAt [] met.place met.entry)).names)
  | .owner amount => pure (amount.fits 0)
  | .newer time => do pure (time < (← ofExec (timeAt met.place)))
  | .age amount unit isDetail => do
    let time ← ofExec (timeAt met.place)
    let time := if isDetail && time < Machine.startTime then Machine.startTime else time
    pure (ageFits amount unit (← ofExec get).now time)
  | .mode permissions => do pure (permissions.fits (← ofExec (modeAt met.place)))
  | .same place => ofExec (isSameFile place met.place)
  | .runnable => do
    let entry ← match met.entry with
      | .link target => pure (((← ofExec get).tree.find met.place.dropLast target).toOption)
      | entry => pure (some (met.place, entry))
    match entry with
    | some (_, .directory) => pure true
    | some (place, .file _) => do pure (Mode.canRun (← ofExec (modeAt place)))
    | some (_, .program _) => pure true
    | _ => pure false
  | .print lineEnd output => do
    writeTo output (met.path ++ [lineEnd])
    pure true
  | .format format output => do
    writeTo output (← ofExec (metText met (format.length + 1) format))
    pure true
  | .list output => do
    writeTo output (← ofExec (metLine met))
    pure true
  | .delete => delete met
  | .prune => do
    modify fun walking => { walking with pruned := true }
    pure true
  | .quit => do
    modify fun walking => { walking with finished := true }
    pure true
  | .run words inside asks => do
    let path := if inside then ['.', '/'] ++ metName met.path else met.path
    let directory := if inside then some met.named.dropLast else none
    let agreed ← if asks then do
        let first := words.headD []
        ofExec do
          report ("< ".toList ++ first ++ " ... ".toList ++ met.path ++ " > ? ".toList)
          let text ← pending 0
          let line := text.takeWhile (· ≠ '\n')
          consume 0 (line.length + 1)
          pure (line.head? = some 'y' || line.head? = some 'Y')
      else pure true
    if agreed then runIn launch directory (words.map (filled path)) else pure false
  | .runAll number words inside => do
    let path := if inside then ['.', '/'] ++ metName met.path else met.path
    collect launch number words (if inside then some met.named.dropLast else none) path
    pure true

def ask (launch : Launch) (finding : FileSearch) (met : Met) : Query → Walk Bool
  | .leaf leaf => do
    if (← get).finished then pure false else askLeaf launch finding met leaf
  | .negated query => do
    pure (!(← ask launch finding met query))
  | .both left right => do
    if (← ask launch finding met left) then ask launch finding met right else pure false
  | .either left right => do
    if (← ask launch finding met left) then pure true else ask launch finding met right
  | .last left right => do
    let _ ← ask launch finding met left
    ask launch finding met right

/-! ## Walking -/

def meet (follows : Bool) (path start : List Char) (depth : Nat) :
    Exec (Except FileError Met) := do
  match (← entryAt false path) with
  | .error error => pure (.error error)
  | .ok (named, entry) =>
    let met : Met := { path, start, depth, place := named, entry, named }
    if follows then
      match (← entryAt true path) with
      | .ok (place, entry) => pure (.ok { met with place, entry })
      | .error _ => pure (.ok met)
    else pure (.ok met)

def walk (launch : Launch) (finding : FileSearch) (query : Query) :
    Nat → List (Place × List Char) → Met → Walk Unit
  | 0, _, _ => pure ()
  | fuel + 1, around, met => do
    if (← get).finished then pure ()
    else match (if met.entry = .directory then around.find? (·.1 = met.place) else none) with
      | some (_, path) =>
        complain ("File system loop detected; ".toList ++ shown met.path ++
          " is part of the same file system loop as ".toList ++ shown path ++ ['.'])
      | none => do
        modify fun walking => { walking with pruned := false }
        if !finding.inward && finding.least ≤ met.depth then do
          let _ ← ask launch finding met query
        let walking ← get
        let enters := met.entry = .directory && finding.most.all (met.depth < ·) &&
          !walking.finished && (finding.inward || !walking.pruned)
        if enters then do
          let names := ((← ofExec get).tree.below met.place (some 1)).filterMap fun (names, _) =>
            names.head?.map fun name => ofPath name
          names.forM fun name => do
            let path := if met.path.getLast? = some '/' then met.path ++ name
              else met.path ++ '/' :: name
            match (← ofExec (meet (finding.following = .always) path met.start
                (met.depth + 1))) with
            | .ok inner =>
              walk launch finding query fuel ((met.place, met.path) :: around) inner
            | .error _ => pure ()
        if finding.inward && finding.least ≤ met.depth && !(← get).finished then do
          let _ ← ask launch finding met query

def batchWords : Query → List (Nat × List (List Char))
  | .leaf (.runAll number words _) => [(number, words)]
  | .leaf _ => []
  | .negated query => batchWords query
  | .both left right | .either left right | .last left right =>
    batchWords left ++ batchWords right

def all (launch : Launch) (finding : FileSearch) (query : Query) (paths : List (List Char)) :
    Walk Unit := do
  paths.forM fun path => do
    if !(← get).finished then
      match (← ofExec (meet (finding.following ≠ .never) path path 0)) with
      | .ok met => walk launch finding query 1000 [] met
      | .error error => complain (shown path ++ [':', ' '] ++ error.reason.toList)
  let words := batchWords query
  (← get).batches.forM fun (number, directory, paths) =>
    runBatch launch ((words.lookup number).getD []) directory paths

end Walk

def findOptions : List (List Char) → Following → Following × List (List Char)
  | word :: rest, following =>
    match String.ofList word with
    | "-P" => findOptions rest .never
    | "-H" => findOptions rest .first
    | "-L" => findOptions rest .always
    | "--" => (following, rest)
    | "-O0" | "-O1" | "-O2" | "-O3" => findOptions rest following
    | _ => (following, word :: rest)
  | [], following => (following, [])

def find (launch : Launch) (words : List (List Char)) : Exec Nat := do
  let (following, words) := findOptions words .never
  let paths := words.takeWhile fun word => !isQueryWord true word
  let rest := words.drop paths.length
  let (result, finding) ← StateT.run (QueryReading.words (rest.length + 1) rest).run { following }
  match result with
  | .error status => pure status
  | .ok () =>
    match FileQuery.ofTokens finding.tokens with
    | .error message => do
      programError message
      pure 1
    | .ok query => do
      let query := if finding.acts then query else .both query (.leaf (.print '\n' none))
      let paths := if paths = [] then [['.']] else paths
      let (_, walking) ← StateT.run (Walk.all launch finding query paths) {}
      pure walking.status

end Exec

end HouseStyle.Shell
