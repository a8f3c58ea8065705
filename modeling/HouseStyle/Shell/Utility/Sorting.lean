import HouseStyle.Shell.Redirection
import HouseStyle.Shell.Utility.Basic
import HouseStyle.Shell.Utility.Order

namespace HouseStyle.Shell

namespace Sorting

/-- How parts are compared: letters for the kind of comparison, and whether blanks in front of the
place where a part starts or ends are passed over. -/
structure Style where
  letters : List Char := []
  trimsStart : Bool := false
  trimsStop : Bool := false

namespace Style

def has (style : Style) (letter : Char) : Bool :=
  style.letters.contains letter

def isPlain (style : Style) : Bool :=
  style.letters.all (· = 'r') && !style.trimsStart && !style.trimsStop

def conflict? (style : Style) : Option (List Char) :=
  let kinds := ("nghM".toList.filter style.has).length
  let others := if "VRdi".toList.any style.has then 1 else 0
  let isShown (letter : Char) : Bool :=
    style.has letter && !(letter = 'i' && style.has 'd')
  if 1 < kinds + others then some ("dfghiMnRV".toList.filter isShown) else none

def isIgnored (style : Style) (c : Char) : Bool :=
  if style.has 'd' then !c.isAlphanum && !Order.isBlank c
  else style.has 'i' && !Quotation.isVisible c

end Style

/-- A part of a line: from where to where it goes. Each place is a number of fields that are passed
over and then a number of characters. -/
structure Key where
  start : Nat × Nat := (0, 0)
  stop : Option (Nat × Nat) := none
  style : Style := {}

inductive KeyFault where
  | noNumber (place : String) (text : List Char)
  | badField (reason : String)

namespace KeyFault

def message (spelled : List Char) : KeyFault → List Char
  | noNumber place text =>
    place.toList ++ ": invalid count at start of ".toList ++ Quotation.withEscapes text
  | badField reason =>
    reason.toList ++ ": invalid field specification ".toList ++ Quotation.withEscapes spelled

end KeyFault

namespace Key

def number (place : String) (text : List Char) : Except KeyFault (Nat × List Char) :=
  let start := text.dropWhile Arithmetic.isBlank
  let start := if start.head? = some '+' then start.tail else start
  let digits := start.takeWhile Char.isDigit
  if digits = [] then .error (.noNumber place text)
  else .ok (Text.digitsValue 10 digits, start.drop digits.length)

def field (place : String) (text : List Char) : Except KeyFault (Nat × List Char) := do
  let (field, rest) ← number place text
  if field = 0 then .error (.badField "field number is zero") else pure (field - 1, rest)

def letters (text : List Char) : List Char × List Char :=
  let letters := text.takeWhile ("bdfghiMnRrV".toList.contains ·)
  (letters, text.drop letters.length)

def ofText (text : List Char) : Except KeyFault Key := do
  let (fields, rest) ← field "invalid number at field start" text
  let (chars, rest) ← match rest with
    | '.' :: rest => do
      let (chars, rest) ← number "invalid number after '.'" rest
      if chars = 0 then .error (.badField "character offset is zero") else pure (chars - 1, rest)
    | rest => pure (0, rest)
  let (first, rest) := letters rest
  let (stop, second, rest) ← match rest with
    | ',' :: rest => do
      let (fields, rest) ← field "invalid number after ','" rest
      let (chars, rest) ← match rest with
        | '.' :: rest => number "invalid number after '.'" rest
        | rest => pure (0, rest)
      let (second, rest) := letters rest
      pure (some (fields, chars), second, rest)
    | rest => pure (none, [], rest)
  if rest ≠ [] then .error (.badField "stray character in field spec")
  else
    let isKind (letter : Char) : Bool := letter ≠ 'b'
    pure { start := (fields, chars), stop
           style := { letters := (first ++ second).filter isKind
                      trimsStart := first.contains 'b'
                      trimsStop := second.contains 'b' } }

/-- What is left of a line behind so many fields. Without a separator each field starts with the
blanks in front of it. -/
def skipFields (separator : Option Char) : Nat → List Char → List Char
  | _, [] => []
  | 0, line => line
  | count + 1, line =>
    match separator with
    | some c => skipFields separator count ((line.dropWhile (· ≠ c)).drop 1)
    | none =>
      skipFields separator count ((line.dropWhile Order.isBlank).dropWhile (!Order.isBlank ·))

def fromStart (key : Key) (separator : Option Char) (line : List Char) : List Char :=
  let rest := skipFields separator key.start.1 line
  let rest := if key.style.trimsStart then rest.dropWhile Order.isBlank else rest
  rest.drop key.start.2

def behind (key : Key) (separator : Option Char) (line : List Char) : List Char :=
  match key.stop with
  | none => []
  | some (fields, 0) =>
    match separator with
    | some c => (skipFields separator fields line).dropWhile (· ≠ c)
    | none => skipFields separator (fields + 1) line
  | some (fields, chars) =>
    let rest := skipFields separator fields line
    let rest := if key.style.trimsStop then rest.dropWhile Order.isBlank else rest
    rest.drop chars

def part (key : Key) (separator : Option Char) (line : List Char) : List Char :=
  let rest := key.fromStart separator line
  let found := rest.take (rest.length - (key.behind separator line).length)
  let counted := found.filter (!key.style.isIgnored ·)
  if key.style.has 'f' then counted.map Char.toUpper else counted

def compare (key : Key) (separator : Option Char) (left right : List Char) : Ordering :=
  let left := key.part separator left
  let right := key.part separator right
  let numeric := (Order.leadingNumber left).compare (Order.leadingNumber right)
  let order :=
    if key.style.has 'n' then numeric
    else if key.style.has 'g' then
      (Order.General.ofText left).compare (Order.General.ofText right)
    else if key.style.has 'h' then
      let power (text : List Char) := Order.unitPower (text.dropWhile Order.isBlank)
      (Order.integer (power left) (power right)).then numeric
    else if key.style.has 'M' then
      Order.natural (Order.monthNumber left) (Order.monthNumber right)
    else if key.style.has 'V' then Order.version left right
    else Order.text left right
  if key.style.has 'r' then order.swap else order

end Key

structure Settings where
  keys : List Key := []
  separator : Option Char := none
  unique : Bool := false
  stable : Bool := false
  reversed : Bool := false

namespace Settings

def byKeys (settings : Settings) (left right : List Char) : Ordering :=
  settings.keys.foldl (fun order key =>
    order.then (key.compare settings.separator left right)) .eq

def compare (settings : Settings) (left right : List Char) : Ordering :=
  let first := settings.byKeys left right
  let whole := Order.text left right
  if !settings.keys.isEmpty && (settings.unique || settings.stable) then first
  else first.then (if settings.reversed then whole.swap else whole)

def inOrder (settings : Settings) (left right : List Char) : Bool :=
  settings.compare left right ≠ .gt

def withoutRepeated (settings : Settings) (lines : List (List Char)) : List (List Char) :=
  let kept := lines.foldl (fun kept line =>
    match kept with
    | last :: _ => if settings.compare last line = .eq then kept else line :: kept
    | [] => [line]) ([] : List (List Char))
  kept.reverse

def merge (settings : Settings) : Nat → List (List (List Char)) → List (List Char) →
    List (List Char)
  | 0, _, merged => merged.reverse
  | count + 1, lists, merged =>
    let best := lists.zipIdx.foldl (fun best (list, index) =>
      match list.head?, best with
      | some line, some (_, old) =>
        if settings.compare line old = .lt then some (index, line) else best
      | some line, none => some (index, line)
      | none, best => best) (none : Option (Nat × List Char))
    match best with
    | none => merged.reverse
    | some (index, line) =>
      settings.merge count (lists.modify index List.tail) (line :: merged)

def disorder? (settings : Settings) : Nat → List (List Char) → Option (Nat × List Char)
  | number, first :: second :: rest =>
    let order := settings.compare first second
    if order = .gt || settings.unique && order = .eq then some (number + 1, second)
    else settings.disorder? (number + 1) (second :: rest)
  | _, _ => none

end Settings

structure Task where
  settings : Settings
  output : Option (List Char) := none
  checks : Option Char := none
  merges : Bool := false
  mark : Char := '\n'
  paths : List (List Char) := []

end Sorting

namespace Exec

open Sorting

def sortForms : List OptionForm :=
  let flags := OptionForm.named
  let valued := OptionForm.namedValued
  flags [('b', "ignore-leading-blanks")] ++
  [{ letter := 'θ', name := "check", demand := .optional }] ++ valued [('γ', "compress-program")] ++
  flags [('α', "debug"), ('d', "dictionary-order"), ('f', "ignore-case")] ++
  valued [('δ', "files0-from")] ++
  flags [('g', "general-numeric-sort"), ('i', "ignore-nonprinting")] ++ valued [('k', "key")] ++
  flags [('m', "merge"), ('M', "month-sort"), ('n', "numeric-sort"), ('h', "human-numeric-sort"),
    ('V', "version-sort"), ('R', "random-sort")] ++
  valued [('ζ', "random-source"), ('η', "sort"), ('o', "output")] ++
  flags [('r', "reverse"), ('s', "stable")] ++
  valued [('β', "batch-size"), ('S', "buffer-size"), ('t', "field-separator"),
    ('T', "temporary-directory")] ++
  flags [('u', "unique"), ('z', "zero-terminated")] ++ valued [('ε', "parallel")] ++
  OptionForm.letters "cC"

def refuseTogether (letters : List Char) : Exec Nat := do
  programError ("options '-".toList ++ letters ++ "' are incompatible".toList)
  pure 2

def sortFault (message : List Char) : Exec Nat := do
  programError message
  pure 2

/-- What the options about the order and the separator say, in the order in which they stand, up to
the first that makes no sense. -/
def sortOptions : List (Char × List Char) → Task → Style → Exec (Except Nat (Task × Style))
  | [], task, style => pure (.ok (task, style))
  | (letter, word) :: rest, task, style => do
    let settings := task.settings
    let stop (fault : Exec Nat) : Exec (Except Nat (Task × Style)) := do
      pure (.error (← fault))
    let withLetter (letter : Char) : Style := { style with letters := style.letters ++ [letter] }
    if "dfghiMnRrV".toList.contains letter then sortOptions rest task (withLetter letter)
    else match letter with
      | 'b' => sortOptions rest task { style with trimsStart := true, trimsStop := true }
      | 'k' =>
        match Key.ofText word with
        | .ok key =>
          sortOptions rest { task with settings := { settings with keys := settings.keys ++ [key] } }
            style
        | .error fault => stop (sortFault (fault.message word))
      | 't' =>
        let separator := if word = ['\\', '0'] then ['\x00'] else word
        match separator with
        | [] => stop (sortFault "empty tab".toList)
        | [c] =>
          if settings.separator.any (· ≠ c) then stop (sortFault "incompatible tabs".toList)
          else sortOptions rest { task with settings := { settings with separator := some c } } style
        | _ => stop (sortFault ("multi-character tab ".toList ++ quoted word))
      | 'o' =>
        if task.output.any (· ≠ word) then
          stop (sortFault "multiple output files specified".toList)
        else sortOptions rest { task with output := some word } style
      | 'η' =>
        let kinds := [("general-numeric", 'g'), ("human-numeric", 'h'), ("month", 'M'),
          ("numeric", 'n'), ("random", 'R'), ("version", 'V')]
        match (← choiceOf "--sort" (kinds.map fun (name, _) => [name]) word) with
        | some name => sortOptions rest task (withLetter ((kinds.lookup name).getD 'n'))
        | none => pure (.error 1)
      | 'c' | 'C' | 'θ' =>
        let kind? ← if letter ≠ 'θ' then pure (some letter) else if word = [] then pure (some 'c')
          else do
            let choice ← choiceOf "--check" [["quiet", "silent"], ["diagnose-first"]] word
            pure (choice.map fun name => if name = "quiet" then 'C' else 'c')
        match kind? with
        | none => pure (.error 1)
        | some kind =>
          if task.checks.any (· ≠ kind) then stop (refuseTogether ['c', 'C'])
          else sortOptions rest { task with checks := some kind } style
      | 's' => sortOptions rest { task with settings := { settings with stable := true } } style
      | 'u' => sortOptions rest { task with settings := { settings with unique := true } } style
      | 'm' => sortOptions rest { task with merges := true } style
      | 'z' => sortOptions rest { task with mark := '\x00' } style
      | _ => sortOptions rest task style

def styledKeys (keys : List Key) (style : Style) : List Key :=
  if keys.isEmpty && !style.isPlain then [{ style }]
  else keys.map fun key =>
    if key.style.isPlain && !key.style.has 'r' then { key with style } else key

def sortInput (mark : Char) (paths : List (List Char)) :
    Exec (Option (List (List (List Char)))) := do
  let contents ← paths.mapM fun path => do
    match (← readPath path) with
    | .ok content => pure (.ok (recordsOf mark content))
    | .error reason => pure (Except.error (path, reason))
  let fault := contents.findSome? fun
    | .error fault => some fault
    | .ok _ => none
  match fault with
  | some (path, reason) => do
    programError ("read failed: ".toList ++ Quotation.ifNeeded path ++ [':', ' '] ++ reason.toList)
    pure none
  | none => pure (some (contents.filterMap Except.toOption))

def sortOutput (channel : Option Nat) (text : List Char) : Exec Nat := do
  match channel with
  | some number => do
    let _ ← writeChannel number text
    pure 0
  | none => do
    put text
    if (← process).choked then do
      changeProcess fun process => { process with choked := false }
      programError ("fflush failed: 'standard output': ".toList ++ (← outputFault).toList)
      programError "write error".toList
      pure 2
    else pure 0

def openSorted (path : List Char) : Exec (Except FileError Nat) :=
  openChannel .append path

def sortFiles (task : Task) : Exec Nat := do
  let missing ← task.paths.findSomeM? fun path => do
    match (← locate path) with
    | .error error => pure (if path = ['-'] then none else some (path, error))
    | .ok _ => pure none
  match missing with
  | some (path, error) =>
    sortFault ("cannot read: ".toList ++ Quotation.ifNeeded path ++ [':', ' '] ++
      error.reason.toList)
  | none => do
    let output : Except (List Char × FileError) (Option (List Char)) ← match task.output with
      | none => pure (.ok none)
      | some path => do
        match (← openSorted path) with
        | .ok _ => pure (.ok (some path))
        | .error error => pure (.error (path, error))
    match output with
    | .error (path, error) =>
      sortFault ("open failed: ".toList ++ Quotation.ifNeeded path ++ [':', ' '] ++
        error.reason.toList)
    | .ok output =>
      match (← sortInput task.mark task.paths) with
      | none => pure 2
      | some files => do
        let settings := task.settings
        let count := files.flatten.length
        let sorted := if task.merges then settings.merge count files []
          else files.flatten.mergeSort settings.inOrder
        let sorted := if settings.unique then settings.withoutRepeated sorted else sorted
        let text := sorted.flatMap (· ++ [task.mark])
        match output with
        | none => sortOutput none text
        | some path => do
          match (← openChannel .overwrite path) with
          | .ok number => sortOutput (some number) text
          | .error _ => pure 2

def checkSorted (task : Task) (kind : Char) (path : List Char) : Exec Nat := do
  match (← readPath path) with
  | .error reason => do
    let what := if reason = "Is a directory" then "read failed: " else "open failed: "
    sortFault (what.toList ++ Quotation.ifNeeded path ++ [':', ' '] ++ reason.toList)
  | .ok content =>
    match task.settings.disorder? 1 (recordsOf task.mark content) with
    | none => pure 0
    | some (number, line) => do
      if kind = 'c' then
        report ((← process).name ++ [':', ' '] ++ path ++ [':'] ++ decimal number ++
          ": disorder: ".toList ++ line ++ [task.mark])
      pure 1

def sort (words : List (List Char)) : Exec Nat :=
  withOptions 2 .mixed sortForms words
      (fun options => sortOptions options { settings := {} } {}) fun (task, style) arguments => do
    match arguments.value? 'δ', arguments.operands with
    | some _, operand :: _ => do
      programError ("extra operand ".toList ++ quoted operand)
      report "file operands cannot be combined with --files0-from\n".toList
      hint
      pure 2
    | some list, [] => do
      match (← readPath list) with
      | .ok content => run { task with paths := recordsOf '\x00' content } style
      | .error reason =>
        sortFault ("open failed: ".toList ++ Quotation.ifNeeded list ++ [':', ' '] ++
          reason.toList)
    | none, [] => run { task with paths := [['-']] } style
    | none, paths => run { task with paths } style
where
  run (task : Task) (style : Style) : Exec Nat := do
    let keys := styledKeys task.settings.keys style
    let task := { task with settings := { task.settings with keys, reversed := style.has 'r' } }
    match keys.findSome? (·.style.conflict?), task.checks, task.paths with
    | some letters, _, _ => refuseTogether letters
    | none, some kind, _ :: extra :: _ =>
      sortFault ("extra operand ".toList ++ shown extra ++ " not allowed with -".toList ++ [kind])
    | none, some kind, paths =>
      if task.output.isSome then refuseTogether [kind, 'o']
      else checkSorted task kind (paths.headD ['-'])
    | none, none, _ => sortFiles task

end Exec

end HouseStyle.Shell
