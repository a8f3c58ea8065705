import HouseStyle.Shell.Utility.Basic

namespace HouseStyle.Shell

inductive RangeFault where
  | noRange
  | zero
  | noEnd
  | decreasing
  | tooLarge (digits : List Char)
  | notNumber (rest : List Char)
  deriving DecidableEq, Repr

def RangeFault.message (ofFields : Bool) : RangeFault → List Char
  | noRange => (if ofFields then "invalid field range" else "invalid byte or character range").toList
  | zero => (if ofFields then "fields are numbered from 1"
      else "byte/character positions are numbered from 1").toList
  | noEnd => "invalid range with no endpoint: -".toList
  | decreasing => "invalid decreasing range".toList
  | tooLarge digits =>
    (if ofFields then "field number " else "byte/character offset ").toList ++
      Quotation.withEscapes digits ++ " is too large".toList
  | notNumber rest =>
    (if ofFields then "invalid field value " else "invalid byte/character position ").toList ++
      Quotation.withEscapes rest

abbrev Ranges := List (Nat × Option Nat)

namespace Ranges

def limit : Nat := 0xffffffffffffffff

def number (text : List Char) : Except RangeFault (Option Nat × List Char) :=
  let digits := text.takeWhile Char.isDigit
  let value := Text.digitsValue 10 digits
  if digits = [] then .ok (none, text)
  else if limit ≤ value then .error (.tooLarge digits)
  else .ok (some value, text.drop digits.length)

def one (text : List Char) : Except RangeFault ((Nat × Option Nat) × List Char) := do
  let (low, rest) ← number text
  match rest with
  | '-' :: rest => do
    if low = some 0 then throw .zero
    let (high, rest) ← number rest
    let start := low.getD 1
    let isOver := match rest with
      | [] => true
      | c :: _ => c = ',' || c = ' ' || c = '\t'
    if rest.head? = some '-' then throw .noRange
    else if !isOver then throw (.notNumber rest)
    else if low.isNone && high.isNone then throw .noEnd
    else if high.any (· < start) then throw .decreasing
    else pure ((start, high), rest)
  | rest =>
    let isOver := match rest with
      | [] => true
      | c :: _ => c = ',' || c = ' ' || c = '\t'
    if !isOver then throw (.notNumber rest)
    else match low with
      | none | some 0 => throw .zero
      | some position => pure ((position, some position), rest)

def read : Nat → List Char → Except RangeFault Ranges
  | 0, _ => .ok []
  | steps + 1, text => do
    let (range, rest) ← one text
    match rest with
    | _ :: rest => do
      pure (range :: (← read steps rest))
    | [] => pure [range]

def joined : Ranges → Ranges
  | [] => []
  | range :: rest =>
    (rest.foldl (fun (done, (low, high)) next =>
      if high.all (next.1 ≤ ·) then
        let high := match high, next.2 with
          | some a, some b => some (Nat.max a b)
          | _, _ => none
        (done, (low, high))
      else ((low, high) :: done, next)) (([] : Ranges), range)) |> fun (done, last) =>
        (last :: done).reverse

def complement (from_ : Nat) : Ranges → Ranges
  | [] => [(from_, none)]
  | (low, high) :: rest =>
    let start : Ranges := if from_ < low then [(from_, some (low - 1))] else []
    match high with
    | some high => start ++ complement (high + 1) rest
    | none => start

def ofText (text : List Char) : Except RangeFault Ranges := do
  let ranges ← read (text.length + 1) text
  pure (joined (ranges.mergeSort fun left right => left.1 ≤ right.1))

def contains (ranges : Ranges) (position : Nat) : Bool :=
  ranges.any fun (low, high) => low ≤ position && high.all (position ≤ ·)

def choose {α : Type} (ranges : Ranges) (items : List α) : List (Bool × α) :=
  items.zipIdx.filterMap fun (item, index) =>
    if ranges.contains (index + 1) then some (ranges.any (·.1 = index + 1), item) else none

end Ranges

structure Columns where
  ofFields : Bool
  ranges : Ranges
  separator : Char := '\t'
  joiner : Option (List Char) := none
  onlySeparated : Bool := false
  mark : Char := '\n'

namespace Columns

def chars (columns : Columns) (line : List Char) : List Char :=
  match columns.joiner with
  | none => (columns.ranges.choose line).map (·.2)
  | some joiner =>
    (columns.ranges.choose line).zipIdx.flatMap fun ((starts, c), index) =>
      if starts && index > 0 then joiner ++ [c] else [c]

def chosen (columns : Columns) (all : List (List Char)) : List Char :=
  (columns.joiner.getD [columns.separator]).intercalate ((columns.ranges.choose all).map (·.2))

def fields (columns : Columns) (line : List Char) : Option (List Char) :=
  if line.contains columns.separator then
    some (columns.chosen (Text.splitAt columns.separator line))
  else if columns.onlySeparated then none
  else some line

def text (columns : Columns) (content : List Char) : List Char :=
  let lines := Exec.recordsOf columns.mark content
  if !columns.ofFields then lines.flatMap fun line => columns.chars line ++ [columns.mark]
  else
    let found := if columns.separator = columns.mark && content.contains columns.mark then
        [columns.chosen lines]
      else lines.filterMap columns.fields
    found.flatMap (· ++ [columns.mark])

end Columns

namespace Exec

def cutList : List (Char × List Char) → Option (Char × List Char) →
    Exec (Except Nat (Option (Char × List Char)))
  | [], list => pure (.ok list)
  | (letter, word) :: rest, list => do
    if "bcf".toList.contains letter then
      if list.isSome then pure (.error (← misuse "only one list may be specified".toList))
      else cutList rest (some (letter, word))
    else if letter = 'd' && word.length > 1 then
      pure (.error (← misuse "the delimiter must be a single character".toList))
    else cutList rest list

def cut (words : List (List Char)) : Exec Nat :=
  let forms := OptionForm.namedValued [('b', "bytes"), ('c', "characters"), ('f', "fields"),
    ('d', "delimiter")] ++ OptionForm.named [('s', "only-delimited")] ++
    OptionForm.namedValued [('ο', "output-delimiter")] ++
    OptionForm.named [('γ', "complement"), ('z', "zero-terminated")] ++ OptionForm.letters "n"
  withOptions 1 .mixed forms words (cutList · none) fun list arguments => do
    match list with
    | none => misuse "you must specify a list of bytes, characters, or fields".toList
    | some (letter, word) =>
      let ofFields := letter = 'f'
      if !ofFields && arguments.has 'd' then
        misuse "an input delimiter may be specified only when operating on fields".toList
      else if !ofFields && arguments.has 's' then
        misuse ("suppressing non-delimited lines makes sense\n" ++
          "\tonly when operating on fields").toList
      else match Ranges.ofText word with
        | .error fault => misuse (fault.message ofFields)
        | .ok ranges =>
          let zeroed (text : List Char) : List Char := if text = [] then ['\x00'] else text
          let columns : Columns :=
            { ofFields
              ranges := if arguments.has 'γ' then ranges.complement 1 else ranges
              separator := (zeroed ((arguments.value? 'd').getD ['\t'])).headD '\t'
              joiner := (arguments.value? 'ο').map zeroed
              onlySeparated := arguments.has 's'
              mark := if arguments.has 'z' then '\x00' else '\n' }
          eachContent arguments.operands fun _ content => put (columns.text content)

end Exec

end HouseStyle.Shell
