import HouseStyle.Shell.Utility.Basic

namespace HouseStyle.Shell

structure Counts where
  lines : Nat := 0
  words : Nat := 0
  chars : Nat := 0
  width : Nat := 0
  inWord : Bool := false
  column : Nat := 0

namespace Counts

def endWord (counts : Counts) : Counts :=
  { counts with words := if counts.inWord then counts.words + 1 else counts.words, inWord := false }

def endLine (counts : Counts) : Counts :=
  { counts with width := Nat.max counts.width counts.column, column := 0 }

def add (counts : Counts) (c : Char) : Counts :=
  let counts := { counts with chars := counts.chars + 1 }
  if c = '\n' then { counts.endLine.endWord with lines := counts.lines + 1 }
  else if c = '\r' || c = '\x0c' then counts.endLine.endWord
  else if c = '\t' then { counts.endWord with column := (counts.column / 8 + 1) * 8 }
  else if c = ' ' then { counts.endWord with column := counts.column + 1 }
  else if c = '\x0b' then counts.endWord
  else if Quotation.isVisible c then { counts with inWord := true, column := counts.column + 1 }
  else counts

def ofText (text : List Char) : Counts :=
  (text.foldl add {}).endLine.endWord

def plus (left right : Counts) : Counts :=
  { lines := left.lines + right.lines
    words := left.words + right.words
    chars := left.chars + right.chars
    width := Nat.max left.width right.width }

end Counts

namespace Exec

def chosenCounts (arguments : Arguments) (counts : Counts) : List Nat :=
  let isPlain := !arguments.hasAny "lwmcL"
  let asked (letter : Char) : Bool := arguments.has letter
  (if asked 'l' || isPlain then [counts.lines] else []) ++
    (if asked 'w' || isPlain then [counts.words] else []) ++
    (if asked 'm' then [counts.chars] else []) ++
    (if asked 'c' || isPlain then [counts.chars] else []) ++
    (if asked 'L' then [counts.width] else [])

def sizeOf (path : List Char) : Exec (Except Bool Nat) := do
  let sizeAt (place : Place) : Exec (Except Bool Nat) := do
    match (← get).tree.get? place with
    | some (.file content) => pure (.ok content.length)
    | _ => pure (.error true)
  if path = ['-'] then
    match (← streamChannel? 0) with
    | some number =>
      match (← channel? number) with
      | some (.file place _ _ _ _) => sizeAt place
      | _ => pure (.error true)
    | none => pure (.error false)
  else match (← locate path) with
    | .ok (place, _) => sizeAt place
    | .error _ => pure (.error false)

def countLine (width : Nat) (counts : List Nat) (label : List Char) : List Char :=
  let columns := counts.map fun count =>
    let digits := decimal count
    List.replicate (width - digits.length) ' ' ++ digits
  [' '].intercalate columns ++ (if label = [] then [] else ' ' :: label) ++ ['\n']

def countWidth (arguments : Arguments) (paths : List (List Char)) : Exec Nat := do
  let sizes ← paths.mapM sizeOf
  let total := sizes.foldl (fun total size => total + size.toOption.getD 0) 0
  let isPlain := sizes.all fun
    | .error isThere => !isThere
    | .ok _ => true
  let width := (decimal total).length
  pure (if paths.length = 1 && (chosenCounts arguments {}).length = 1 then 1
    else if isPlain then width else Nat.max 7 width)

/-- Count in files. `label` gives what is shown for a path, and `isFit` whether it can be one, and
complains if not. -/
def countFiles (arguments : Arguments) (width : Nat) (label : List Char → List Char)
    (paths : List (List Char)) (isFit : List Char → Nat → Exec Bool) : Exec Nat := do
  let results ← paths.zipIdx.mapM fun (path, index) => do
    if !(← isFit path index) then pure (false, ({} : Counts))
    else match (← readPath path) with
    | .ok content => do
      let counts := Counts.ofText content
      put (countLine width (chosenCounts arguments counts) (label path))
      pure (true, counts)
    | .error reason => do
      pathError path reason
      if reason = "Is a directory" then
        put (countLine width (chosenCounts arguments {}) (label path))
      pure (false, {})
  if paths.length > 1 then
    let total := results.foldl (fun total (_, counts) => total.plus counts) ({} : Counts)
    put (countLine width (chosenCounts arguments total) "total".toList)
  pure (if results.all (·.1) then 0 else 1)

def countListed (arguments : Arguments) (list : List Char) : Exec Nat := do
  match (← sizeOf list), (← readPath list) with
  | size, .ok content => do
    let names := recordsOf '\x00' content
    let width ← if size.isOk && names ≠ [] then countWidth arguments names else pure 1
    countFiles arguments width id names fun name index => do
      if name = [] then do
        programError (Quotation.ifNeeded list ++ [':'] ++ decimal (index + 1) ++
          ": invalid zero-length file name".toList)
        pure false
      else if list = ['-'] && name = ['-'] then do
        programError ("when reading file names from stdin, no file name of '-' allowed".toList)
        pure false
      else pure true
  | _, .error reason => do
    programError ("cannot open ".toList ++ shown list ++ " for reading: ".toList ++ reason.toList)
    pure 1

def wc (words : List (List Char)) : Exec Nat :=
  let forms := OptionForm.named [('c', "bytes"), ('m', "chars"), ('l', "lines"), ('w', "words")] ++
    OptionForm.namedValued [('φ', "files0-from")] ++ OptionForm.named [('L', "max-line-length")]
  withArguments 1 forms words fun arguments => do
    match arguments.value? 'φ', arguments.operands with
    | some _, operand :: _ => do
      programError ("extra operand ".toList ++ shown operand)
      report "file operands cannot be combined with --files0-from\n".toList
      hint
      pure 1
    | some list, [] => countListed arguments list
    | none, [] => do
      countFiles arguments (← countWidth arguments [['-']]) (fun _ => []) [['-']] isAlwaysFit
    | none, paths => do
      countFiles arguments (← countWidth arguments paths) id paths isAlwaysFit
where
  isAlwaysFit (_ : List Char) (_ : Nat) : Exec Bool := pure true

end Exec

end HouseStyle.Shell
