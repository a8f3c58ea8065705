import HouseStyle.Shell.Fields
import HouseStyle.Shell.Regex.BareClass
import HouseStyle.Shell.Regex.Perl
import HouseStyle.Shell.Regex.Plan
import HouseStyle.Shell.Regex.Spelling
import HouseStyle.Shell.Utility.Basic

namespace HouseStyle.Shell

namespace Search

inductive Kind where
  | basic
  | extended
  | plain
  | perl
  deriving DecidableEq, Repr

inductive Binary where
  | noted
  | passed
  | asText
  deriving DecidableEq, Repr

structure Settings where
  plans : List Regex.Plan := []
  wholeLines : Bool := false
  words : Bool := false
  inverted : Bool := false
  most : Option Nat := none
  counting : Bool := false
  listing : Bool := false
  listingOthers : Bool := false
  quiet : Bool := false
  silent : Bool := false
  partsOnly : Bool := false
  numbers : Bool := false
  offsets : Bool := false
  named : Bool := false
  aligned : Bool := false
  zeroNames : Bool := false
  colored : Bool := false
  before : Option Nat := none
  after : Option Nat := none
  separator : Option (List Char) := some ['-', '-']
  mark : Char := '\n'
  binary : Binary := .noted

structure Line where
  text : List Char
  number : Nat
  offset : Nat
  chosen : Bool

/-! ## Expressions -/

def spelling (extended : Bool) : Regex.Spelling :=
  { extended, looseBraces := extended, looseParentheses := extended }

/-- The signs at the starts of expressions that repeat nothing, as they are warned of. `atStart` tells
whether nothing was read that could be repeated. -/
def startSigns : Nat → Bool → Regex.Reader → List String
  | 0, _, _ => []
  | steps + 1, atStart, reader =>
    let read (action : Regex.Parse Unit) (reader : Regex.Reader) : Regex.Reader :=
      match action.run reader with
      | .ok (_, reader) => reader
      | .error _ => { reader with text := [], sign := .ended }
    let fetch := read (Regex.fetch (spelling true) false)
    match reader.sign with
    | .ended => []
    | .star | .plus | .question =>
      (if atStart then [String.ofList [reader.sign.asChar]] else []) ++
        startSigns steps atStart (fetch reader)
    | .openBounds =>
      let after := read (do let _ ← Regex.bounds (spelling true)) reader
      let isLoose := after.sign = .char '\x7b'
      (if atStart && !isLoose then ["\x7b...\x7d"] else []) ++ startSigns steps false after
    | .openGroup | .bar => startSigns steps true (fetch reader)
    | .edge _ => startSigns steps atStart (fetch reader)
    | .bracket =>
      let rest := match Regex.bracketSet false reader.text with
        | .ok (_, rest) => rest
        | .error _ => []
      startSigns steps false (fetch { reader with text := rest })
    | _ => startSigns steps false (fetch reader)

def plansOf (folded first : Bool) (regexes : List Regex) : List Regex.Plan :=
  let (others, simple) := regexes.partition fun regex => first || regex.hasMemory
  (if simple.isEmpty then [] else [(Regex.choice simple).plan folded false first]) ++
    others.map fun regex => regex.plan folded false first

/-! ## Lines -/

def findPart (settings : Settings) (before rest : List Char) : Option Regex.Plan.Found :=
  let starts (c : Option Char) : Bool :=
    if settings.wholeLines then c.isNone else !settings.words || !c.any isWordChar
  let ends (c : Option Char) : Bool :=
    if settings.wholeLines then c.isNone else !settings.words || !c.any isWordChar
  let found := settings.plans.filterMap fun plan => plan.findFrom false starts ends rest before
  found.foldl (fun best part =>
    match best with
    | none => some part
    | some old =>
      let isBetter := part.before.length < old.before.length ||
        part.before.length = old.before.length && old.text.length < part.text.length
      some (if isBetter then part else old)) none

def partsFrom (settings : Settings) : Nat → List Char → List Char → List (Nat × List Char)
  | 0, _, _ => []
  | steps + 1, before, rest =>
    match findPart settings before rest with
    | none => []
    | some part =>
      if part.text = [] then
        match part.rest with
        | c :: rest => partsFrom settings steps (c :: part.before) rest
        | [] => []
      else (part.before.length, part.text) ::
        partsFrom settings steps (part.text.reverse ++ part.before) part.rest

def parts (settings : Settings) (line : List Char) : List (Nat × List Char) :=
  partsFrom settings (line.length + 1) [] line

def linesOf (settings : Settings) (content : List Char) : List Line :=
  let lines := Exec.recordsOf settings.mark content
  let isChosen (line : List Char) : Bool :=
    (findPart settings [] line).isSome != settings.inverted
  let (found, _) := lines.foldl (fun (found, number, offset, count) text =>
    let chosen := settings.most.all (count < ·) && isChosen text
    ({ text, number, offset, chosen } :: found, number + 1, offset + text.length + 1,
      if chosen then count + 1 else count)) (([] : List Line), 1, 0, 0)
  found.reverse

/-! ## Output -/

def colorful (settings : Settings) (color : String) (text : List Char) : List Char :=
  if settings.colored then
    ("\x1b[" ++ color ++ "m\x1b[K").toList ++ text ++ "\x1b[m\x1b[K".toList
  else text

def lineHead (settings : Settings) (width : Nat) (label : List Char) (sign : Char)
    (number offset : Nat) : List Char :=
  let separator := colorful settings "36" [sign]
  let field (value : Nat) : List Char :=
    let digits := Exec.decimal value
    let filled := if settings.aligned then
      List.replicate (width - digits.length) ' ' ++ digits else digits
    colorful settings "32" filled ++ separator
  let name := if settings.named then
    colorful settings "35" label ++ (if settings.zeroNames then ['\x00'] else separator) else []
  let fields := (if settings.numbers then field number else []) ++
    (if settings.offsets then field offset else [])
  let all := name ++ fields
  all ++ (if settings.aligned && all ≠ [] then ['\t'] else [])

def coloredLine (settings : Settings) (line : List Char) : List Char :=
  let (shown, position) := (parts settings line).foldl (fun (shown, position) (start, text) =>
    (shown ++ ((line.take start).drop position) ++ colorful settings "01;31" text,
      start + text.length)) (([] : List Char), 0)
  shown ++ line.drop position

def chosenText (settings : Settings) (width : Nat) (label : List Char) (line : Line) : List Char :=
  if settings.partsOnly then
    if settings.inverted then []
    else (parts settings line.text).flatMap fun (start, text) =>
      lineHead settings width label ':' line.number (line.offset + start) ++
        colorful settings "01;31" text ++ [settings.mark]
  else
    let text := if settings.colored && !settings.inverted then coloredLine settings line.text
      else line.text
    lineHead settings width label ':' line.number line.offset ++ text ++ [settings.mark]

/-- The lines around those that were chosen: each with its distance to the last chosen line before it
and to the next one behind it. -/
def withDistances (lines : List Line) : List (Line × Option Nat × Option Nat) :=
  let step (distance : Option Nat) (line : Line) : Option Nat :=
    if line.chosen then some 0 else distance.map (· + 1)
  let distances (lines : List Line) : List (Option Nat) :=
    (lines.foldl (fun (found, distance) line =>
      let distance := step distance line
      (distance :: found, distance)) (([] : List (Option Nat)), none)).1
  lines.zip ((distances lines).reverse.zip (distances lines.reverse))

/-- What is shown of a file with lines around those that were chosen. Gives whether anything was shown
already. -/
def contextText (settings : Settings) (width : Nat) (label : List Char) (hasShown : Bool)
    (lines : List Line) : List Char × Bool :=
  let isNear (most : Option Nat) (distance : Option Nat) : Bool :=
    distance.any (· ≤ most.getD 0)
  let shown := (withDistances lines).filter fun (line, since, until_) =>
    line.chosen || isNear settings.after since || isNear settings.before until_
  let separates := settings.before.isSome || settings.after.isSome
  let (text, _, hasShown) := shown.foldl (fun (text, last, hasShown) (line, _, _) =>
    let gap := hasShown && last ≠ some (line.number - 1)
    let separator := match settings.separator with
      | some separator =>
        if gap && separates then colorful settings "36" separator ++ ['\n'] else []
      | none => []
    let body := if line.chosen then chosenText settings width label line
      else if settings.partsOnly then []
      else lineHead settings width label '-' line.number line.offset ++ line.text ++
        [settings.mark]
    (text ++ separator ++ body, some line.number, true))
    (([] : List Char), (none : Option Nat), hasShown)
  (text, hasShown)

def numberWidth (settings : Settings) (size : Option Nat) : Nat :=
  match size with
  | some size => (Exec.decimal (if settings.numbers then size + 1 else size)).length
  | none => 19

end Search

namespace Exec

open Search

def grepHelp : Exec Unit :=
  report ("Usage: grep [OPTION]... PATTERNS [FILE]...\n" ++
    "Try 'grep --help' for more information.\n").toList

/-- How a search goes on: whether something was shown, whether a line was chosen, and whether
something went wrong. -/
structure SearchState where
  hasShown : Bool := false
  found : Bool := false
  failed : Bool := false

def searchContent (settings : Settings) (label : List Char) (size : Option Nat)
    (content : List Char) (state : SearchState) : Exec SearchState := do
  let isBinary := settings.binary ≠ .asText && settings.mark ≠ '\x00' && content.contains '\x00'
  if isBinary && settings.binary = .passed then pure state
  else
    let lines := Search.linesOf settings content
    let count := lines.countP (·.chosen)
    let state := { state with found := state.found || count > 0 }
    let name := colorful settings "35" label
    if settings.quiet then pure state
    else if settings.listing || settings.listingOthers then do
      if (count > 0) = settings.listing then
        put (name ++ [if settings.zeroNames then '\x00' else '\n'])
      pure state
    else if settings.counting then do
      let sign := if settings.zeroNames then ['\x00'] else colorful settings "36" [':']
      put ((if settings.named then name ++ sign else []) ++ decimal count ++ ['\n'])
      pure state
    else if isBinary then do
      if count > 0 then
        programError (label ++ ": binary file matches".toList)
      pure state
    else do
      let (text, hasShown) :=
        contextText settings (numberWidth settings size) label state.hasShown lines
      put text
      pure { state with hasShown }

def searchFault (settings : Settings) (path : List Char) (reason : String) (state : SearchState) :
    Exec SearchState := do
  if !settings.silent then programError (path ++ [':', ' '] ++ reason.toList)
  pure { state with failed := true }

def searchFile (settings : Settings) (label path : List Char) (state : SearchState) :
    Exec SearchState := do
  let printsLines := !settings.quiet && !settings.counting && !settings.listing &&
    !settings.listingOthers && settings.most.all (1 < ·)
  let isOutput ← isOutput path
  let size := match (← filePlace? path).bind (← get).tree.get? with
    | some (.file content) => some content.length
    | _ => none
  if printsLines && isOutput then
    programError (label ++ ": input file is also the output".toList)
    pure { state with failed := true }
  else match (← readPath path) with
    | .ok content => searchContent settings label size content state
    | .error reason => searchFault settings path reason state

structure FileChoice where
  patterns : List (Bool × List GlobToken) := []
  directories : List (List GlobToken) := []

def FileChoice.plainPattern (text : List Char) : List GlobToken :=
  globOf (text.map (·, false))

def FileChoice.fits (pattern : List GlobToken) : List Char → Bool
  | [] => globMatches pattern []
  | path@(c :: rest) =>
    globMatches pattern path || fitsBehind pattern (c :: rest)
where
  fitsBehind (pattern : List GlobToken) : List Char → Bool
    | [] => false
    | c :: rest => c = '/' && globMatches pattern rest || fitsBehind pattern rest

def FileChoice.includes (choice : FileChoice) (path : List Char) : Bool :=
  match (choice.patterns.filter fun (_, pattern) => fits pattern path).getLast? with
  | some (isIncluded, _) => isIncluded
  | none => !(choice.patterns.head?.any (·.1))

def FileChoice.includesDirectory (choice : FileChoice) (path : List Char) : Bool :=
  !choice.directories.any fun pattern => fits pattern path

/-- The files below a directory that are searched, with their paths. Links are followed if that is
said. -/
def filesBelow (choice : FileChoice) (following : Bool) : Nat → List Char → Place →
    Exec (List (List Char))
  | 0, _, _ => pure []
  | depth + 1, path, place => do
    let tree := (← get).tree
    let names := (tree.below place (some 1)).filterMap fun (names, entry) =>
      names.head?.map (ofPath ·, entry)
    let found ← names.mapM fun (name, entry) => do
      let inner := if path = [] then name
        else if path.getLast? = some '/' then path ++ name else path ++ ['/'] ++ name
      match entry with
      | .directory =>
        if choice.includesDirectory inner then
          filesBelow choice following depth inner (place ++ [(pathOf name).bytes])
        else pure []
      | .file _ => pure (if choice.includes inner then [inner] else [])
      | .link _ => do
        if !following then pure []
        else match (← locate inner) with
          | .ok (target, .directory) => filesBelow choice following depth inner target
          | .ok (_, .file _) => pure (if choice.includes inner then [inner] else [])
          | _ => pure []
      | _ => pure []
    pure found.flatten

def grepForms : List OptionForm :=
  OptionForm.namedValued [('A', "after-context"), ('B', "before-context"), ('C', "context"),
    ('d', "directories"), ('D', "devices"), ('e', "regexp"), ('f', "file"), ('m', "max-count"),
    ('α', "binary-files"), ('β', "exclude"), ('γ', "exclude-from"), ('δ', "exclude-dir"),
    ('ε', "group-separator"), ('ζ', "include"), ('η', "label")] ++
  [{ letter := 'θ', name := "color", demand := .optional },
    { letter := 'θ', name := "colour", demand := .optional }] ++
  OptionForm.named [('E', "extended-regexp"), ('F', "fixed-strings"), ('G', "basic-regexp"),
    ('P', "perl-regexp"), ('a', "text"), ('b', "byte-offset"), ('c', "count"),
    ('h', "no-filename"), ('H', "with-filename"), ('i', "ignore-case"), ('κ', "no-ignore-case"),
    ('T', "initial-tab"), ('L', "files-without-match"), ('l', "files-with-matches"),
    ('λ', "line-buffered"), ('x', "line-regexp"), ('n', "line-number"), ('s', "no-messages"),
    ('ν', "no-group-separator"), ('Z', "null"), ('z', "null-data"), ('o', "only-matching"),
    ('q', "quiet"), ('q', "silent"), ('r', "recursive"), ('R', "dereference-recursive"),
    ('v', "invert-match"), ('w', "word-regexp"), ('U', "binary"), ('u', "unix-byte-offsets")] ++
  OptionForm.letters "Iy0123456789"

def contextLength (word : List Char) : Exec (Except Unit (Option Nat)) := do
  if word ≠ [] && word.all Char.isDigit then pure (.ok (some (Text.digitsValue 10 word)))
  else do
    programError (word ++ ": invalid context length argument".toList)
    pure (.error ())

def contextOf (arguments : Arguments) (letter : Char) : Exec (Except Unit (Option Nat)) := do
  let digits := (arguments.options.filter (·.1.isDigit)).map (·.1)
  let own := arguments.value? letter
  let both := arguments.value? 'C'
  let given := own.or both
  match given with
  | some word => contextLength word
  | none => pure (.ok (if digits = [] then none else some (Text.digitsValue 10 digits)))

def patternsOf (arguments : Arguments) : Exec (Except Unit (List (List Char × List Char))) := do
  let found ← arguments.options.mapM fun (letter, argument) => do
    if letter = 'e' then
      pure (some ((Text.splitAt '\n' argument).map (([] : List Char), ·)))
    else if letter = 'f' then
      match (← readPath argument) with
      | .ok content =>
        pure (some (((linesOf content).zipIdx 1).map fun (line, number) =>
          (argument ++ [':'] ++ decimal number ++ [':', ' '], line)))
      | .error reason => do
        programError (argument ++ [':', ' '] ++ reason.toList)
        pure none
    else pure (some [])
  pure (if found.all Option.isSome then .ok (found.filterMap id).flatten else .error ())

def expressionsOf (kind : Search.Kind) (patterns : List (List Char × List Char)) :
    Exec (Option (List Regex)) := do
  let regexes ← patterns.mapM fun (place, text) => do
    let result : Except String Regex := match kind with
      | .plain => .ok (Regex.ofPlain text)
      | .perl => Regex.ofPerl text
      | .basic => (Regex.ofText (spelling false) text).mapError Regex.Fault.message
      | .extended => (Regex.ofText (spelling true) text).mapError Regex.Fault.message
    match result with
    | .ok regex => pure (some regex)
    | .error message => do
      programError (place ++ message.toList)
      pure none
  if !regexes.all Option.isSome then pure none
  else
    let spelled := kind = .basic || kind = .extended
    if kind = .extended then
      patterns.forM fun (_, text) => do
        let start : Regex.Reader := { text }
        let signs := match (Regex.fetch (spelling true) true).run start with
          | .ok (_, reader) => startSigns (text.length + 1) true reader
          | .error _ => []
        signs.forM fun sign =>
          programError ("warning: " ++ sign ++ " at start of expression").toList
    if spelled && patterns.any fun (_, text) => Regex.hasBareClass (text.length + 1) text then do
      programError Regex.bareClass.toList
      pure none
    else pure (some (regexes.filterMap id))

/-- Search files for expressions. The status tells whether a line was found, or that something went
wrong. -/
def grep (words : List (List Char)) : Exec Nat := do
  let arguments := Arguments.parse .mixed grepForms words
  match arguments.fault with
  | some fault => do
    programError fault
    grepHelp
    pure 2
  | none => do
    let kinds := (arguments.options.filter fun option => "EFGP".toList.contains option.1).map (·.1)
    if kinds.any (· ≠ kinds.headD 'G') then
      programError "conflicting matchers specified".toList
      pure 2
    else match (← contextOf arguments 'A'), (← contextOf arguments 'B') with
      | .ok after, .ok before => withContext arguments (kinds.headD 'G') before after
      | _, _ => pure 2
where
  withContext (arguments : Arguments) (letter : Char) (before after : Option Nat) : Exec Nat := do
    let most := arguments.value? 'm'
    let binary := arguments.value? 'α'
    let directories := arguments.value? 'd'
    if most.any fun word => word = [] || !(word.drop (if word.head? = some '-' then 1 else 0)).all
        Char.isDigit then
      programError "invalid max count".toList
      pure 2
    else if binary.any fun word => !(["binary", "text", "without-match"].contains
        (String.ofList word)) then
      programError "unknown binary-files type".toList
      pure 2
    else if directories.any fun word => !(["read", "recurse", "skip"].contains
        (String.ofList word)) then
      programError ("invalid argument ".toList ++ shown (directories.getD []) ++
        " for '--directories'\nValid arguments are:\n".toList ++
        "  - 'read'\n  - 'recurse'\n  - 'skip'".toList)
      grepHelp
      pure 2
    else
      let isGiven := arguments.hasAny "ef"
      match isGiven, arguments.operands with
      | false, [] => do
        grepHelp
        pure 2
      | false, pattern :: paths =>
        run arguments letter before after ((Text.splitAt '\n' pattern).map (([] : List Char), ·)) paths
      | true, paths => do
        match (← patternsOf arguments) with
        | .ok patterns => run arguments letter before after patterns paths
        | .error _ => pure 2
  run (arguments : Arguments) (letter : Char) (before after : Option Nat)
      (patterns : List (List Char × List Char)) (paths : List (List Char)) : Exec Nat := do
    let kind : Search.Kind := match letter with
      | 'E' => .extended
      | 'F' => .plain
      | 'P' => .perl
      | _ => .basic
    match (← expressionsOf kind patterns) with
    | none => pure 2
    | some regexes => do
      let folded := arguments.last? "iyκ" ≠ some 'κ' && arguments.hasAny "iy"
      let recursive := arguments.hasAny "rR" || arguments.value? 'd' = some "recurse".toList
      let binaryMark := (arguments.options.filter fun option =>
        "aIα".toList.contains option.1).getLast?
      let nothing := patterns = []
      let most := (arguments.value? 'm').filter (·.head? ≠ some '-')
      let settings : Settings :=
        { plans := plansOf folded (kind = .perl) regexes
          wholeLines := arguments.has 'x' && !nothing
          words := arguments.has 'w' && !nothing
          inverted := arguments.has 'v'
          most := most.map (Text.digitsValue 10)
          counting := arguments.has 'c'
          listing := arguments.last? "lL" = some 'l'
          listingOthers := arguments.last? "lL" = some 'L'
          quiet := arguments.has 'q'
          silent := arguments.has 's'
          partsOnly := arguments.has 'o'
          numbers := arguments.has 'n'
          offsets := arguments.has 'b'
          aligned := arguments.has 'T'
          zeroNames := arguments.has 'Z'
          colored := arguments.value? 'θ' = some "always".toList
          before, after
          separator := if arguments.last? "εν" = some 'ν' then none
            else some ((arguments.value? 'ε').getD ['-', '-'])
          mark := if arguments.has 'z' then '\x00' else '\n'
          binary := match binaryMark with
            | some ('a', _) => .asText
            | some ('I', _) => .passed
            | some (_, kind) => if kind = "text".toList then .asText
              else if kind = "without-match".toList then .passed else .noted
            | none => .noted }
      if settings.most = some 0 then pure 1
      else searchAll arguments settings recursive paths
  searchAll (arguments : Arguments) (settings : Settings) (recursive : Bool)
      (operands : List (List Char)) : Exec Nat := do
    let choice : FileChoice :=
      { patterns := arguments.options.filterMap fun (letter, text) =>
          if letter = 'ζ' then some (true, FileChoice.plainPattern text)
          else if letter = 'β' then some (false, FileChoice.plainPattern text)
          else none
        directories := (arguments.options.filter (·.1 = 'δ')).map fun (_, text) =>
          FileChoice.plainPattern text }
    let naming := arguments.last? "hH"
    let inputLabel := (arguments.value? 'η').getD "(standard input)".toList
    let skips := arguments.value? 'd' = some "skip".toList
    let several := operands.length > 1
    let paths := if operands ≠ [] then operands else if recursive then [['.']] else [['-']]
    let final ← paths.foldlM (fun state path => do
      let quietEnough := settings.quiet && state.found
      if quietEnough then pure state
      else
        let named (inDirectory : Bool) : Bool :=
          if naming = some 'H' then true else if naming = some 'h' then false
          else several || inDirectory
        let label := if path = ['-'] then inputLabel else path
        let target ← locate path
        match if path = ['-'] then none else target.toOption with
        | some (place, .directory) =>
          if skips then pure state
          else if !recursive then searchFault settings path "Is a directory" state
          else if !choice.includesDirectory (withoutFinalSlashes path) then pure state
          else do
            let start := if operands = [] then [] else path
            let files ← filesBelow choice (arguments.has 'R') 64 start place
            files.foldlM (fun state file =>
              searchFile { settings with named := named true } file file state) state
        | _ =>
          if path ≠ ['-'] && !choice.includes path then pure state
          else searchFile { settings with named := named false } label path state)
      ({} : SearchState)
    pure (if settings.quiet && final.found then 0
      else if final.failed then 2 else if final.found then 0 else 1)
  withoutFinalSlashes (path : List Char) : List Char :=
    match (path.reverse.dropWhile (· = '/')).reverse with
    | [] => path
    | kept => kept

end Exec

end HouseStyle.Shell
