import HouseStyle.Shell.Utility.Basic

namespace HouseStyle.Shell

structure Extent where
  ofLines : Bool := true
  count : Nat := 10
  turned : Bool := false
  mark : Char := '\n'

namespace Extent

def start (extent : Extent) (text : List Char) : List Char :=
  let cut {α : Type} (items : List α) : List α :=
    items.take (if extent.turned then items.length - extent.count else extent.count)
  if extent.ofLines then (cut (Exec.recordsWithEnds extent.mark text)).flatten else cut text

def ending (extent : Extent) (text : List Char) : List Char :=
  let cut {α : Type} (items : List α) : List α :=
    items.drop (if extent.turned then extent.count - 1 else items.length - extent.count)
  if extent.ofLines then (cut (Exec.recordsWithEnds extent.mark text)).flatten else cut text

def usedForStart (extent : Extent) (text : List Char) : Nat :=
  if extent.turned then text.length else (extent.start text).length

end Extent

namespace Exec

/-- Read an extent, of which a sign can turn the side from which it is counted. Its complaints are
about what is behind the sign. -/
def extentOf (turn : Char) (letter : Char) (word : List Char) : Exec (Option Extent) := do
  let ofLines := letter = 'n'
  let amount := if word.head? = some '-' then word.tail else word
  match amountOf "bkKmMGTPEZY" amount with
  | .ok count => pure (some { ofLines, count, turned := word.head? = some turn })
  | .error fault => do
    amountError (if ofLines then "invalid number of lines" else "invalid number of bytes") amount
      fault
    pure none

def chosenExtent (turn : Char) (atDigit : Char → Exec Nat) : List (Char × List Char) → Extent →
    Exec (Except Nat Extent)
  | [], extent => pure (.ok extent)
  | (letter, word) :: rest, extent => do
    if letter.isDigit then pure (.error (← atDigit letter))
    else if letter = 'n' || letter = 'c' then
      match (← extentOf turn letter word) with
      | some found => chosenExtent turn atDigit rest { found with mark := extent.mark }
      | none => pure (.error 1)
    else
      chosenExtent turn atDigit rest (if letter = 'z' then { extent with mark := '\x00' } else extent)

def hasTitles (arguments : Arguments) (paths : List (List Char)) : Bool :=
  match arguments.last? "qv" with
  | some 'v' => true
  | some _ => false
  | none => paths.length > 1

def showParts (part : List Char → List Char) (used : List Char → Nat) (titled : Bool)
    (paths : List (List Char)) : Exec Nat := do
  let (_, good) ← paths.foldlM (fun (isFirst, good) path => do
    let title : Exec Unit := do
      if titled then
        let label := if path = ['-'] then "standard input".toList else path
        put ((if isFirst then [] else ['\n']) ++ "==> ".toList ++ label ++ " <==\n".toList)
    match (← readPathUsing used path) with
    | .ok content => do
      title
      put (part content)
      pure (false, good)
    | .error "Is a directory" => do
      title
      let _ ← refusePath "error reading" path "Is a directory"
      pure (false, false)
    | .error reason => do
      let _ ← programError ("cannot open ".toList ++ shown path ++ " for reading: ".toList ++
        reason.toList)
      pure (isFirst, false)) (true, true)
  pure (if good then 0 else 1)

def partForms : List OptionForm :=
  OptionForm.namedValued [('c', "bytes"), ('n', "lines")] ++
  OptionForm.named [('q', "quiet"), ('q', "silent"), ('v', "verbose"), ('z', "zero-terminated")]

def shortExtent (digits letters : List Char) : Except Char (List (List Char)) := do
  let (letter, unit, options) ← letters.foldlM (fun (letter, unit, options) c =>
    match c with
    | 'c' => .ok ('c', [], options)
    | 'b' | 'k' | 'm' => .ok ('c', [c], options)
    | 'l' => .ok ('n', unit, options)
    | 'q' | 'v' | 'z' => .ok (letter, unit, options ++ [['-', c]])
    | c => .error c) ('n', ([] : List Char), ([] : List (List Char)))
  pure ([['-', letter], digits ++ unit] ++ options)

def head (words : List (List Char)) : Exec Nat :=
  match words with
  | ('-' :: c :: rest) :: others =>
    if c.isDigit then
      let digits := (c :: rest).takeWhile Char.isDigit
      match shortExtent digits ((c :: rest).drop digits.length) with
      | .ok first => run (first ++ others)
      | .error letter => misuse ("invalid trailing option -- ".toList ++ [letter])
    else run words
  | words => run words
where
  run (words : List (List Char)) : Exec Nat :=
    let forms := partForms ++ OptionForm.letters "0123456789"
    let atDigit (digit : Char) := misuse ("invalid trailing option -- ".toList ++ [digit])
    withOptions 1 .mixed forms words (chosenExtent '-' atDigit · {}) fun extent arguments => do
      let paths := if arguments.operands = [] then [['-']] else arguments.operands
      showParts extent.start extent.usedForStart (hasTitles arguments paths) paths

def shortEnding? (words : List (List Char)) : Option (List (List Char)) :=
  match words with
  | (sign :: rest) :: others =>
    let digits := rest.takeWhile Char.isDigit
    let letters := rest.drop digits.length
    let amount := sign :: (if digits = [] then ['1', '0'] else digits)
    let unit := letters.take 1
    let isUnit := ["b", "c", "l"].contains (String.ofList unit)
    let following := letters.drop (if isUnit then 1 else 0)
    let isAlone := match others with
      | [] => true
      | [path] => path = ['-'] || path.head? ≠ some '-'
      | [['-', '-'], _] => true
      | _ => false
    let isPlain := digits ≠ [] || sign = '+' && letters ≠ []
    if (sign = '-' || sign = '+') && isPlain && isAlone &&
        (following = [] || following = ['f']) then
      let option := if unit = ['c'] || unit = ['b'] then ['-', 'c'] else ['-', 'n']
      let amount := if unit = ['b'] then amount ++ ['b'] else amount
      some ([option, amount] ++ (if following = [] then [] else [['-', 'f']]) ++ others)
    else none
  | _ => none

def tail (words : List (List Char)) : Exec Nat :=
  run ((shortEnding? words).getD words)
where
  forms : List OptionForm :=
    partForms ++ [{ letter := 'φ', name := "follow", demand := .optional }] ++
    OptionForm.named [('ρ', "retry")] ++ OptionForm.letters "fF0123456789" ++
    OptionForm.namedValued [('π', "pid"), ('s', "sleep-interval"), ('μ', "max-unchanged-stats")]
  run (words : List (List Char)) : Exec Nat :=
    withOptions 1 .mixed forms words (chosenExtent '+' atDigit · {}) fun extent arguments => do
      let paths := if arguments.operands = [] then [['-']] else arguments.operands
      let status ← showParts extent.ending List.length (hasTitles arguments paths) paths
      if arguments.hasAny "fFφ" && paths ≠ [['-']] then sleepForever
      pure status
  atDigit (digit : Char) : Exec Nat := do
    programError ("option used in invalid context -- ".toList ++ [digit])
    pure 1

end Exec

end HouseStyle.Shell
