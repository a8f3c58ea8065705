import HouseStyle.Shell.Redirection
import HouseStyle.Shell.Utility.Basic
import HouseStyle.Shell.Utility.Order

namespace HouseStyle.Shell.Exec

structure Repeats where
  counting : Bool := false
  single : Bool := true
  first : Bool := true
  later : Bool := false
  gaps : String := "none"
  groups : Option String := none
  folded : Bool := false
  fields : Nat := 0
  chars : Nat := 0
  most : Option Nat := none
  mark : Char := '\n'

namespace Repeats

def withoutFields : Nat → List Char → List Char
  | _, [] => []
  | 0, line => line
  | count + 1, line =>
    withoutFields count ((line.dropWhile Order.isBlank).dropWhile (!Order.isBlank ·))

def part (repeats : Repeats) (line : List Char) : List Char :=
  let rest := (withoutFields repeats.fields line).drop repeats.chars
  let compared := match repeats.most with
    | some most => rest.take most
    | none => rest
  if repeats.folded then compared.map Char.toUpper else compared

def same (repeats : Repeats) (left right : List Char) : Bool :=
  repeats.part left = repeats.part right

/-- What is shown of a line that the last line behind it repeats or not, after so many that it
repeats. -/
def shownLine (repeats : Repeats) (line : List Char) (repeated : Bool) (count : Nat) : List Char :=
  let isShown := if count = 0 then repeats.single else if repeated then repeats.later
    else repeats.first
  let digits := decimal (count + 1)
  let start := if repeats.counting then List.replicate (7 - digits.length) ' ' ++ digits ++ [' ']
    else []
  if isShown then start ++ line ++ [repeats.mark] else []

/-- Show lines behind one, which repeats so many. Empty lines stand before the first group only if
that is said. The output has its last piece first. -/
def showFrom (repeats : Repeats) : List (List Char) → List Char → Nat → Bool → List (List Char) →
    List (List Char)
  | [], last, count, _, shown => repeats.shownLine last false count :: shown
  | line :: rest, last, count, isFirst, shown =>
    if repeats.same line last then
      let count := count + 1
      let hasGap := count = 1 &&
        (repeats.gaps = "prepend" || repeats.gaps = "separate" && !isFirst)
      let shown := if hasGap then [repeats.mark] :: shown else shown
      if repeats.later then
        repeats.showFrom rest line count isFirst (repeats.shownLine last true count :: shown)
      else repeats.showFrom rest last count isFirst shown
    else
      repeats.showFrom rest line 0 (isFirst && count = 0) (repeats.shownLine last false count :: shown)

def showGroups (repeats : Repeats) (manner : String) : List (List Char) → Option (List Char) →
    List (List Char) → List (List Char)
  | [], last, shown =>
    if last.isSome && (manner = "both" || manner = "append") then [repeats.mark] :: shown else shown
  | line :: rest, last, shown =>
    let isNew := !last.any (repeats.same line)
    let hasGap := isNew && (manner = "prepend" || manner = "both" || last.isSome)
    let shown := if hasGap then [repeats.mark] :: shown else shown
    repeats.showGroups manner rest (some line) ((line ++ [repeats.mark]) :: shown)

def text (repeats : Repeats) (lines : List (List Char)) : List Char :=
  let pieces := match repeats.groups, lines with
    | some manner, lines => repeats.showGroups manner lines none []
    | none, first :: rest => repeats.showFrom rest first 0 true []
    | none, [] => []
  pieces.reverse.flatten

end Repeats

/-- What the options of `uniq` say, in the order in which they stand. `digits` are those of a number
of fields that stand behind dashes alone. -/
def repeatsOf : List (Char × List Char) → List Char → Repeats → Exec (Except Nat Repeats)
  | [], digits, repeats =>
    pure (.ok (if digits = [] then repeats
      else { repeats with fields := Text.digitsValue 10 digits }))
  | (letter, word) :: rest, digits, repeats => do
    let number (what : String) (use : Nat → Exec (Except Nat Repeats)) : Exec (Except Nat Repeats) := do
      match count? word with
      | some count => use count
      | none => do
        programError (word ++ (": invalid number of " ++ what).toList)
        pure (.error 1)
    if letter.isDigit then repeatsOf rest (digits ++ [letter]) repeats
    else match letter with
      | 'c' => repeatsOf rest digits { repeats with counting := true }
      | 'd' => repeatsOf rest digits { repeats with single := false }
      | 'u' => repeatsOf rest digits { repeats with first := false }
      | 'i' => repeatsOf rest digits { repeats with folded := true }
      | 'z' => repeatsOf rest digits { repeats with mark := '\x00' }
      | 'f' => number "fields to skip" fun fields => repeatsOf rest [] { repeats with fields }
      | 's' => number "bytes to skip" fun chars => repeatsOf rest digits { repeats with chars }
      | 'w' =>
        number "bytes to compare" fun most => repeatsOf rest digits { repeats with most := some most }
      | 'D' => do
        let repeats := { repeats with single := false, later := true }
        if word = [] then repeatsOf rest digits { repeats with gaps := "none" }
        else match (← choiceOf "--all-repeated" [["none"], ["prepend"], ["separate"]] word) with
          | some gaps => repeatsOf rest digits { repeats with gaps }
          | none => pure (.error 1)
      | _ => do
        if word = [] then repeatsOf rest digits { repeats with groups := some "separate" }
        else
          let choices := [["prepend"], ["append"], ["separate"], ["both"]]
          match (← choiceOf "--group" choices word) with
          | some manner => repeatsOf rest digits { repeats with groups := some manner }
          | none => pure (.error 1)

def uniqForms : List OptionForm :=
  OptionForm.letters "D0123456789" ++ OptionForm.named [('c', "count"), ('d', "repeated")] ++
  [{ letter := 'D', name := "all-repeated", demand := .optional },
    { letter := 'γ', name := "group", demand := .optional }] ++
  OptionForm.named [('i', "ignore-case"), ('u', "unique")] ++
  OptionForm.namedValued [('f', "skip-fields"), ('s', "skip-chars"), ('w', "check-chars")] ++
  OptionForm.named [('z', "zero-terminated")]

def uniq (words : List (List Char)) : Exec Nat :=
  withOptions 1 .mixed uniqForms words (repeatsOf · [] {}) fun repeats arguments => do
    let isNumber (word : List Char) : Bool :=
      word.length > 1 && word.head? = some '+' && word.tail.all Char.isDigit
    let (numbers, paths) := arguments.operands.partition isNumber
    let repeats := match numbers.getLast? with
      | some number => { repeats with chars := Text.digitsValue 10 number.tail }
      | none => repeats
    match paths with
    | _ :: _ :: extra :: _ => misuse ("extra operand ".toList ++ quoted extra)
    | paths =>
      if repeats.groups.isSome && arguments.hasAny "cdDu" then
        misuse "--group is mutually exclusive with -c/-d/-D/-u".toList
      else if repeats.counting && repeats.later then
        misuse "printing all duplicated lines and repeat counts is meaningless".toList
      else run repeats (paths.headD ['-']) (paths.tail.headD ['-'])
where
  run (repeats : Repeats) (path output : List Char) : Exec Nat := do
    match (← locate path) with
    | .error error =>
      if path = ['-'] then showFile repeats path output
      else do
        pathError path error.reason
        pure 1
    | .ok _ => showFile repeats path output
  showFile (repeats : Repeats) (path output : List Char) : Exec Nat := do
    let channel : Except FileError (Option Nat) ← if output = ['-'] then pure (.ok none) else do
      let opened ← openChannel .overwrite output
      pure (opened.map some)
    match channel with
    | .error error => do
      pathError output error.reason
      pure 1
    | .ok channel => do
      match (← readPath path) with
      | .error reason => do
        programError ("error reading ".toList ++ shown path ++ [':', ' '] ++ reason.toList)
        pure 1
      | .ok content => do
        let text := repeats.text (recordsOf repeats.mark content)
        match channel with
        | none => put text
        | some number => do
          let _ ← writeChannel number text
        pure 0

end HouseStyle.Shell.Exec
