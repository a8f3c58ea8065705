import HouseStyle.Shell.DateFormat
import HouseStyle.Shell.DifferenceText
import HouseStyle.Shell.Utility.Comparison
import HouseStyle.Shell.Utility.Files
import HouseStyle.Shell.Utility.Order
import HouseStyle.Shell.Utility.Search

namespace HouseStyle.Shell.Exec

inductive BlankRule where
  | allCount
  | tabs
  | atEnds
  | tabsAndEnds
  | amounts
  | noneCount
  deriving DecidableEq, Repr

namespace BlankRule

def rank : BlankRule → Nat
  | allCount => 0
  | tabs => 1
  | atEnds => 2
  | tabsAndEnds => 3
  | amounts => 4
  | noneCount => 5

def dropsEnds (rule : BlankRule) : Bool :=
  2 ≤ rule.rank

end BlankRule

structure Diffing where
  layout : DiffLayout := {}
  style : Option DiffStyle := none
  around : Option Nat := none
  blanks : BlankRule := .allCount
  folded : Bool := false
  emptyLines : Bool := false
  ignored : List Regex.Plan := []
  asText : Bool := false
  brief : Bool := false
  reportsSame : Bool := false
  recursive : Bool := false
  missingEmpty : Bool := false
  firstMissingEmpty : Bool := false
  thorough : Bool := false
  dropsReturns : Bool := false
  labels : List (List Char) := []
  excluded : List (List Char) := []
  horizon : Nat := 0
  first : Option (List Char) := none
  second : Option (List Char) := none
  showsFunctions : Bool := false
  spelled : List Char := []

namespace Diffing

def isSpace (c : Char) : Bool :=
  c = ' ' || ('\t' ≤ c && c ≤ '\r')

def withoutEnd (text : List Char) : List Char :=
  (text.reverse.dropWhile isSpace).reverse

def squeezed : Bool → List Char → List Char
  | _, [] => []
  | afterBlank, c :: rest =>
    if isSpace c then (if afterBlank then squeezed true rest else ' ' :: squeezed true rest)
    else c :: squeezed false rest

def essence (diffing : Diffing) (line : List Char) : List Char :=
  let tabSize := diffing.layout.tabSize
  let text := match diffing.blanks with
    | .allCount => line
    | .tabs => DiffLayout.withBlanks tabSize line
    | .atEnds => withoutEnd line
    | .tabsAndEnds => withoutEnd (DiffLayout.withBlanks tabSize line)
    | .amounts => squeezed false (withoutEnd line)
    | .noneCount => line.filter (!isSpace ·)
  if diffing.folded then text.map Char.toLower else text

def classesOf : List (List Char × Bool) → List (List Char × Bool) → List Nat →
    List Nat × List (List Char × Bool)
  | known, [], done => (done.reverse, known)
  | known, text :: rest, done =>
    match known.idxOf? text with
    | some index => classesOf known rest ((index + 1) :: done)
    | none => classesOf (known ++ [text]) rest ((known.length + 1) :: done)

def sideOf (diffing : Diffing) (title content : List Char) : DiffSide :=
  let lines := linesOf content
  let lines := if diffing.dropsReturns then lines.map fun line =>
    if line.getLast? = some '\r' then line.dropLast else line else lines
  { title, lines := lines.toArray
    complete := content = [] || content.getLast? = some '\n' }

def sameStart : List (List Char × Bool) → List (List Char × Bool) → Nat → Nat
  | left :: lefts, right :: rights, count =>
    if left = right then sameStart lefts rights (count + 1) else count
  | _, _, count => count

/-- The places where two files differ. Lines at the starts and at the ends that are the same are not
looked at, except for some that stand next to the others. -/
def changes (diffing : Diffing) (style : DiffStyle) (left right : DiffSide) : List Change :=
  let horizon := Nat.max diffing.horizon style.around
  let raw (side : DiffSide) : List (List Char × Bool) :=
    side.lines.toList.zipIdx.map fun (line, index) =>
      (line, style.showsEnds && DiffLayout.isOpen side index)
  let lefts := raw left
  let rights := raw right
  let start := sameStart lefts rights 0 - horizon
  let lefts := lefts.drop start
  let rights := rights.drop start
  let most := Nat.min lefts.length rights.length
  let ending := Nat.min most (sameStart lefts.reverse rights.reverse 0) - horizon
  let key (line : List Char × Bool) : List Char × Bool :=
    (diffing.essence line.1, line.2 && !diffing.blanks.dropsEnds)
  let lefts := (lefts.take (lefts.length - ending)).map key
  let rights := (rights.take (rights.length - ending)).map key
  let (xs, known) := classesOf [] lefts []
  let (ys, _) := classesOf known rights []
  (Difference.changes diffing.thorough xs ys).map fun change =>
    { change with left := change.left + start, right := change.right + start }

def shownLayout (diffing : Diffing) : DiffLayout :=
  let skipsBlanks := diffing.emptyLines && diffing.blanks.dropsEnds
  let isEmpty (line : List Char) : Bool :=
    if skipsBlanks then line.all isSpace else line = []
  let trivial (line : List Char) : Bool :=
    (diffing.emptyLines && isEmpty line) || diffing.ignored.any (·.isIn line)
  let around := diffing.around.getD 0
  let style := match diffing.style.getD .normal with
    | .context _ => DiffStyle.context around
    | .unified _ => .unified around
    | style => style
  { diffing.layout with
    style
    trivial := if diffing.emptyLines || diffing.ignored ≠ [] then some trivial else none }

end Diffing

structure DiffInput where
  path : List Char
  place : Option Place := none
  missing : Bool := false
  isDirectory : Bool := false
  time : Int := 0

def diffInput (path : List Char) : Exec (Except FileError DiffInput) := do
  if path = ['-'] then
    pure (.ok { path, place := (← filePlace? path), time := (← get).now })
  else match (← locate path) with
    | .ok (place, entry) => do
      let isDirectory := entry = .directory
      pure (.ok { path, place := some place, isDirectory, time := (← timeAt place) })
    | .error error => pure (.error error)

def diffTitle (diffing : Diffing) (index : Nat) (input : DiffInput) : List Char :=
  match diffing.labels[index]? with
  | some label => label
  | none =>
    let pattern := match diffing.style with
      | some (.context _) => "%a %b %e %H:%M:%S %Y"
      | _ => "%Y-%m-%d %H:%M:%S.%N %z"
    input.path ++ ['\t'] ++ DateFormat.format (if input.missing then 0 else input.time)
      pattern.toList

def diffFiles (diffing : Diffing) (inside : Bool) (left right : DiffInput) : Exec Nat := do
  let layout := diffing.shownLayout
  let name (index : Nat) (input : DiffInput) : List Char := diffing.labels.getD index input.path
  let names (middle : String) (ending : String) : List Char :=
    name 0 left ++ middle.toList ++ name 1 right ++ ending.toList
  let tellSame : Exec Nat := do
    if diffing.reportsSame then put ("Files ".toList ++ names " and " " are identical\n")
    pure 0
  let isSame := left.path = right.path || (left.place.isSome && left.place = right.place)
  if isSame && (layout.style ≠ .sideBySide && (match layout.style with
      | .merged _ => false
      | _ => true)) then tellSame
  else
    let read (input : DiffInput) : Exec (Except String (List Char)) :=
      if input.missing then pure (.ok []) else readPath input.path
    match (← read left), (← read right) with
    | .error reason, other => do
      pathError left.path reason
      match other with
      | .error reason => pathError right.path reason
      | .ok _ => pure ()
      pure 2
    | .ok _, .error reason => do
      pathError right.path reason
      pure 2
    | .ok leftText, .ok rightText => do
      let ignores := diffing.blanks ≠ .allCount || diffing.folded || diffing.emptyLines ||
        diffing.ignored ≠ [] || diffing.dropsReturns
      let isBinary := !diffing.asText && (leftText.contains '\x00' || rightText.contains '\x00')
      if isBinary || (diffing.brief && !ignores) then
        if leftText = rightText then tellSame
        else if diffing.brief then do
          put ("Files ".toList ++ names " and " " differ\n")
          pure 1
        else do
          put ("Binary files ".toList ++ names " and " " differ\n")
          pure 2
      else do
        let leftSide := diffing.sideOf (diffTitle diffing 0 left) leftText
        let rightSide := diffing.sideOf (diffTitle diffing 1 right) rightText
        let changes := diffing.changes layout.style leftSide rightSide
        let counted := changes.filter fun change => !layout.isTrivial leftSide rightSide [change]
        if diffing.brief then
          if counted = [] then tellSame
          else do
            put ("Files ".toList ++ names " and " " differ\n")
            pure 1
        else do
          let text := layout.text leftSide rightSide changes
          if text ≠ [] && inside then
            put ("diff".toList ++ diffing.spelled ++ [' '] ++ Quotation.ifNeeded left.path ++ [' '] ++
              Quotation.ifNeeded right.path ++ ['\n'])
          put text
          let unended := if layout.style.showsEnds then [] else
            (if leftSide.complete then [] else [left.path]) ++
              (if rightSide.complete then [] else [right.path])
          if changes ≠ [] then
            unended.forM fun path =>
              programError (path ++ ": No newline at end of file\n".toList)
          if changes ≠ [] && unended ≠ [] then pure 2
          else if counted = [] then tellSame
          else pure 1

def sortOfFile (place : Option Place) : Exec String := do
  match place.bind (← get).tree.get? with
  | some .directory => pure "directory"
  | some (.file content) => pure (if content = [] then "regular empty file" else "regular file")
  | some (.link _) => pure "symbolic link"
  | some (.device _) => pure "character special file"
  | _ => pure "regular file"

def isExcluded (diffing : Diffing) (name : List Char) : Bool :=
  diffing.excluded.any fun pattern => FileChoice.fits (FileChoice.plainPattern pattern) name

def comparedNames (diffing : Diffing) (input : DiffInput) : Exec (List (List Char)) := do
  match input.place with
  | some place => do
    let entries := (← get).tree.below place (some 1)
    let names := entries.map fun (names, _) => ofPath (names.headD [])
    pure ((names.filter fun name => !isExcluded diffing name).mergeSort fun left right =>
      Order.text left right ≠ .gt)
  | none => pure []

def pairedNames (lefts rights : List (List Char)) : List (List Char × Bool × Bool) :=
  let all := (lefts ++ rights.filter fun name => !lefts.contains name).mergeSort fun left right =>
    Order.text left right ≠ .gt
  all.map fun name => (name, lefts.contains name, rights.contains name)

def worse (left right : Nat) : Nat :=
  Nat.max left right

mutual

def diffPair (diffing : Diffing) : Nat → DiffInput → DiffInput → List Char × Bool × Bool → Exec Nat
  | 0, _, _, _ => pure 2
  | depth + 1, leftDirectory, rightDirectory, (name, inLeft, inRight) => do
    let only (directory : DiffInput) : Exec Nat := do
      put ("Only in ".toList ++ directory.path ++ [':', ' '] ++ name ++ ['\n'])
      pure 1
    let leftPath := pathIn leftDirectory.path name
    let rightPath := pathIn rightDirectory.path name
    let fills := diffing.missingEmpty || (diffing.firstMissingEmpty && !inLeft)
    if !(inLeft && inRight) && !fills then only (if inLeft then leftDirectory else rightDirectory)
    else do
      let input (present : Bool) (path : List Char) : Exec (Except FileError DiffInput) :=
        if present then diffInput path else pure (.ok { path, missing := true })
      match (← input inLeft leftPath), (← input inRight rightPath) with
      | .error error, other => do
        pathError leftPath error.reason
        match other with
        | .error error => pathError rightPath error.reason
        | .ok _ => pure ()
        pure 2
      | .ok _, .error error => do
        pathError rightPath error.reason
        pure 2
      | .ok left, .ok right =>
        if left.missing || right.missing then
          if left.isDirectory || right.isDirectory then
            if diffing.recursive then diffDirectories diffing depth left right
            else only (if inLeft then leftDirectory else rightDirectory)
          else diffFiles diffing true left right
        else if left.isDirectory && right.isDirectory then
          if diffing.recursive then diffDirectories diffing depth left right
          else do
            put ("Common subdirectories: ".toList ++ left.path ++ " and ".toList ++ right.path ++
              ['\n'])
            pure 0
        else if left.isDirectory || right.isDirectory then do
          let leftSort ← sortOfFile left.place
          let rightSort ← sortOfFile right.place
          put ("File ".toList ++ left.path ++ (" is a " ++ leftSort ++ " while file ").toList ++
            right.path ++ (" is a " ++ rightSort ++ "\n").toList)
          pure 1
        else diffFiles diffing true left right

def diffDirectories (diffing : Diffing) : Nat → DiffInput → DiffInput → Exec Nat
  | 0, _, _ => pure 2
  | depth + 1, left, right => do
    let names := pairedNames (← comparedNames diffing left) (← comparedNames diffing right)
    names.foldlM (fun status found => do
      pure (worse status (← diffPair diffing depth left right found))) 0

end

def maxDiffDepth : Nat := 1000

def diffPaths (diffing : Diffing) (leftPath rightPath : List Char) : Exec Nat := do
  let leftFound ← diffInput leftPath
  let rightFound ← diffInput rightPath
  let fill (found other : Except FileError DiffInput) (fills : Bool) (path : List Char) :
      Except FileError DiffInput :=
    match found, other with
    | .error .notFound, .ok other =>
      if fills then .ok { path, missing := true, isDirectory := other.isDirectory }
      else found
    | _, _ => found
  let left := fill leftFound rightFound (diffing.missingEmpty || diffing.firstMissingEmpty) leftPath
  let right := fill rightFound leftFound diffing.missingEmpty rightPath
  match left, right with
  | .error error, other => do
    pathError leftPath error.reason
    match other with
    | .error error => pathError rightPath error.reason
    | .ok _ => pure ()
    pure 2
  | .ok _, .error error => do
    pathError rightPath error.reason
    pure 2
  | .ok left, .ok right =>
    if left.isDirectory && right.isDirectory then
      diffDirectories diffing maxDiffDepth left right
    else if left.isDirectory || right.isDirectory then
      let (directory, file) := if left.isDirectory then (left, right) else (right, left)
      if file.path = ['-'] then do
        programError "cannot compare '-' to a directory".toList
        pure 2
      else do
        let path := pathIn directory.path (baseName file.path)
        match (← diffInput path) with
        | .error error => do
          pathError path error.reason
          pure 2
        | .ok found =>
          if found.isDirectory then do
            let (left, right) := if left.isDirectory then (found, file) else (file, found)
            let leftSort ← sortOfFile left.place
            let rightSort ← sortOfFile right.place
            put ("File ".toList ++ left.path ++ (" is a " ++ leftSort ++ " while file ").toList ++
              right.path ++ (" is a " ++ rightSort ++ "\n").toList)
            pure 1
          else if left.isDirectory then diffFiles diffing false found file
          else diffFiles diffing false file found
    else diffFiles diffing false left right

/-! ## Options -/

def isSameStyle : DiffStyle → DiffStyle → Bool
  | .context _, .context _ => true
  | .unified _, .unified _ => true
  | .merged left, .merged right => left = right
  | left, right => left = right

def diffOptions : List (Char × List Char) → Diffing → Exec (Except Nat Diffing)
  | [], diffing => pure (.ok diffing)
  | (letter, word) :: rest, diffing => do
    let refuse (message : List Char) : Exec (Except Nat Diffing) := do
      pure (.error (← misuseNamed message))
    let styled (style : DiffStyle) (around : Option Nat) : Exec (Except Nat Diffing) := do
      if diffing.style.any (!isSameStyle style ·) then
        refuse "conflicting output style options".toList
      else
        let around := match around with
          | none => diffing.around
          | some count => some (Nat.max count (diffing.around.getD 0))
        diffOptions rest { diffing with style := some style, around }
    let atLeast (rule : BlankRule) : Exec (Except Nat Diffing) :=
      diffOptions rest { diffing with
        blanks := if diffing.blanks.rank < rule.rank then rule else diffing.blanks }
    let layout := diffing.layout
    let pattern (use : Regex.Plan → Diffing) : Exec (Except Nat Diffing) := do
      match Regex.ofText {} word with
      | .ok regex => diffOptions rest (use (regex.plan false false false))
      | .error fault => do
        programError (word ++ [':', ' '] ++ fault.message.toList)
        pure (.error 2)
    let number (what : String) (least : Nat) (use : Nat → Diffing) :
        Exec (Except Nat Diffing) := do
      match count? word with
      | some count =>
        if count < least then refuse (what.toList ++ [' '] ++ quoted word)
        else diffOptions rest (use count)
      | none => refuse (what.toList ++ [' '] ++ quoted word)
    match letter with
    | 'a' => diffOptions rest { diffing with asText := true }
    | 'b' => atLeast .amounts
    | 'w' => atLeast .noneCount
    | 'Z' => diffOptions rest { diffing with blanks := match diffing.blanks with
        | .allCount => .atEnds
        | .tabs => .tabsAndEnds
        | rule => rule }
    | 'E' => diffOptions rest { diffing with blanks := match diffing.blanks with
        | .allCount => .tabs
        | .atEnds => .tabsAndEnds
        | rule => rule }
    | 'B' => diffOptions rest { diffing with emptyLines := true }
    | 'i' => diffOptions rest { diffing with folded := true }
    | 'I' => pattern fun plan => { diffing with ignored := plan :: diffing.ignored }
    | 'F' => pattern fun plan => { diffing with layout := { layout with title := some plan } }
    | 'p' =>
      match Regex.ofText {} "^[[:alpha:]$_]".toList with
      | .ok regex => diffOptions rest { diffing with
          layout := { layout with title := some (regex.plan false false false) }
          showsFunctions := true }
      | .error _ => diffOptions rest diffing
    | 'u' => styled (.unified 3) (some 3)
    | 'c' => styled (.context 3) (some 3)
    | 'U' | 'C' =>
      match count? word with
      | some count =>
        styled (if letter = 'U' then .unified count else .context count) (some count)
      | none => refuse ("invalid context length ".toList ++ quoted word)
    | 'e' => styled .script none
    | 'f' => styled .forwardScript none
    | 'n' => styled .counted none
    | 'y' => styled .sideBySide none
    | 'ν' => styled .normal none
    | 'D' => styled (.merged word) none
    | 'W' => number "invalid width" 1 fun width =>
      { diffing with layout := { layout with width } }
    | 'τ' => number "invalid tabsize" 1 fun tabSize =>
      { diffing with layout := { layout with tabSize } }
    | 'η' => number "invalid horizon length" 0 fun horizon =>
      { diffing with horizon := Nat.max horizon diffing.horizon }
    | 't' => diffOptions rest { diffing with layout := { layout with expanded := true } }
    | 'T' => diffOptions rest { diffing with layout := { layout with tabbed := true } }
    | 'λ' => diffOptions rest { diffing with layout := { layout with leftColumn := true } }
    | 'σ' => diffOptions rest { diffing with layout := { layout with onlyChanges := true } }
    | 'q' => diffOptions rest { diffing with brief := true }
    | 's' => diffOptions rest { diffing with reportsSame := true }
    | 'r' => diffOptions rest { diffing with recursive := true }
    | 'N' => diffOptions rest { diffing with missingEmpty := true }
    | 'P' => diffOptions rest { diffing with firstMissingEmpty := true }
    | 'd' => diffOptions rest { diffing with thorough := true }
    | 'ρ' => diffOptions rest { diffing with dropsReturns := true }
    | 'L' =>
      if diffing.labels.length = 2 then do
        programError "too many file label options".toList
        pure (.error 2)
      else diffOptions rest { diffing with labels := diffing.labels ++ [word] }
    | 'x' => diffOptions rest { diffing with excluded := word :: diffing.excluded }
    | 'X' => do
      match (← readPath word) with
      | .ok content => diffOptions rest { diffing with
          excluded := (linesOf content).filter (· ≠ []) ++ diffing.excluded }
      | .error reason => do
        pathError word reason
        pure (.error 2)
    | 'φ' => diffOptions rest { diffing with first := some word }
    | 'ψ' => diffOptions rest { diffing with second := some word }
    | letter =>
      if letter.isDigit then
        -- Digits that stand together make one number.
        diffOptions rest { diffing with
          around := some ((diffing.around.getD 0) * 10 + Text.digitsValue 10 [letter]) }
      else diffOptions rest diffing

def diffForms : List OptionForm :=
  OptionForm.named [('a', "text"), ('b', "ignore-space-change"), ('B', "ignore-blank-lines"),
    ('d', "minimal"), ('e', "ed"), ('E', "ignore-tab-expansion"), ('f', "forward-ed"),
    ('H', "speed-large-files"), ('i', "ignore-case"), ('n', "rcs"), ('N', "new-file"),
    ('p', "show-c-function"), ('P', "unidirectional-new-file"), ('q', "brief"),
    ('r', "recursive"), ('s', "report-identical-files"), ('t', "expand-tabs"),
    ('T', "initial-tab"), ('w', "ignore-all-space"), ('y', "side-by-side"),
    ('Z', "ignore-trailing-space"), ('ν', "normal"), ('λ', "left-column"),
    ('σ', "suppress-common-lines"), ('ρ', "strip-trailing-cr"), ('δ', "no-dereference")] ++
  OptionForm.letters "cuh0123456789" ++
  OptionForm.namedValued [('D', "ifdef"), ('F', "show-function-line"),
    ('I', "ignore-matching-lines"), ('L', "label"), ('W', "width"), ('x', "exclude"),
    ('X', "exclude-from"), ('τ', "tabsize"), ('η', "horizon-lines"), ('φ', "from-file"),
    ('ψ', "to-file"), ('S', "starting-file")] ++
  OptionForm.valued "CU" ++
  [{ letter := 'c', name := "context" }, { letter := 'u', name := "unified" },
    { letter := 'κ', name := "color", demand := .optional }]

def spelledOptions (operands words : List (List Char)) : List Char :=
  let kept := words.foldl (fun (kept, left) word =>
    if left.head? = some word then (kept, left.tail) else (word :: kept, left))
    (([] : List (List Char)), operands)
  kept.1.reverse.flatMap fun word => ' ' :: Quotation.ifNeeded word

def diff (words : List (List Char)) : Exec Nat := do
  let words := words.map fun word =>
    if "--unified=".toList.isPrefixOf word then "-U".toList ++ word.drop 10
    else if "--context=".toList.isPrefixOf word then "-C".toList ++ word.drop 10
    else word
  let arguments := Arguments.parse .mixed diffForms words
  match (← diffOptions arguments.options {}), arguments.fault with
  | .error status, _ => pure status
  | .ok _, some fault => misuseNamed fault
  | .ok diffing, none =>
    let operands := arguments.operands
    let diffing := { diffing with spelled := spelledOptions operands words }
    let diffing := if diffing.showsFunctions && diffing.style.isNone then
      { diffing with style := some (.context 3), around := some (diffing.around.getD 3) }
      else diffing
    match diffing.first, diffing.second, operands with
    | some first, none, paths =>
      paths.foldlM (fun status path => do
        pure (worse status (← diffPaths diffing first path))) 0
    | none, some second, paths =>
      paths.foldlM (fun status path => do
        pure (worse status (← diffPaths diffing path second))) 0
    | some _, some _, _ => do
      programError "--from-file and --to-file both specified".toList
      pure 2
    | none, none, [] => do
      misuseNamed ("missing operand after ".toList ++
        quoted (words.getLast?.getD (← process).name))
    | none, none, [only] =>
      misuseNamed ("missing operand after ".toList ++ quoted only)
    | none, none, [left, right] => diffPaths diffing left right
    | none, none, _ :: _ :: extra :: _ =>
      misuseNamed ("extra operand ".toList ++ quoted extra)

end HouseStyle.Shell.Exec
