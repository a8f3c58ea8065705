import HouseStyle.Shell.Extended
import HouseStyle.Shell.Utility.Basic

namespace HouseStyle.Shell

namespace NumberRow

/-- A number as it was given: its value, how wide it is, and how many places it has behind the point.
What is written in a way that has no places of its own has none to give. -/
structure Given where
  value : Extended
  width : Nat := 0
  places : Option Nat := some 0
  digits : Option (List Char) := none

inductive Fault where
  | notFloat (word : List Char)
  | notNumber (word : List Char)
  deriving DecidableEq, Repr

def Fault.message : Fault → List Char
  | notFloat word => "invalid floating point argument: ".toList ++ Quotation.withEscapes word
  | notNumber word => "invalid 'not-a-number' argument: ".toList ++ Quotation.withEscapes word

def withExponent (width places fraction : Nat) (hasPoint : Bool) (exponent : Int) : Nat × Nat :=
  if exponent < 0 then
    let width := if !hasPoint || fraction = 0 then width + 1 else width
    (width + exponent.natAbs, places + exponent.natAbs)
  else
    let size := exponent.toNat
    let left := places - Nat.min places size
    let width := if hasPoint && left = 0 && fraction ≠ 0 then width - 1 else width
    (width + (size - Nat.min fraction size), left)

def Given.ofText (word : List Char) : Except Fault Given :=
  match Extended.ofText? word with
  | none => .error (.notFloat word)
  | some (.notNumber _) => .error (.notNumber word)
  | some value =>
    let isTooLarge := !value.isFinite && word.any Char.isDigit
    if isTooLarge then .error (.notFloat word)
    else
      let text := word.dropWhile fun c => Arithmetic.isBlank c || c = '+'
      let hasPoint := text.contains '.'
      let isDecimal := !text.contains 'x' && !text.contains 'X' && value.isFinite
      if !isDecimal then
        .ok { value, places := if hasPoint || text.contains 'p' then none else some 0 }
      else
        let isMark (c : Char) : Bool := c = 'e' || c = 'E'
        let whole := text.takeWhile (!isMark ·)
        let fraction := ((whole.dropWhile (· ≠ '.')).drop 1).length
        let isBare := match (whole.takeWhile (· ≠ '.')).getLast? with
          | some c => !c.isDigit
          | none => true
        let width := if !hasPoint then whole.length else if fraction = 0 then whole.length - 1
          else if isBare then whole.length + 1 else whole.length
        if text.any isMark then
          let (exponent, _) := exponentOf ['e', 'E'] (text.drop whole.length)
          let (width, places) := withExponent width fraction fraction hasPoint exponent
          .ok { value, width, places := some places }
        else .ok { value, width, places := some fraction
                   digits := if word.all Char.isDigit then some word else none }

structure Format where
  before : List Char := []
  layout : Layout := {}
  letter : Char := 'f'
  after : List Char := []

namespace Format

def plain : Nat → List Char → List Char → List Char × List Char
  | 0, text, found => (found.reverse, text)
  | _ + 1, [], found => (found.reverse, [])
  | steps + 1, c :: rest, found =>
    if c ≠ '%' then plain steps rest (c :: found)
    else if rest.head? = some '%' then plain steps rest.tail ('%' :: found)
    else (found.reverse, c :: rest)

def ofText (text : List Char) : Except (List Char) Format :=
  let refuse (fault : List Char) : Except (List Char) Format :=
    .error ("format ".toList ++ Quotation.withEscapes text ++ [' '] ++ fault)
  let steps := text.length + 1
  let (before, rest) := plain steps text []
  match rest with
  | [] => refuse "has no % directive".toList
  | _ :: rest =>
    let flags := rest.takeWhile ("-+#0 '".toList.contains ·)
    let rest := rest.drop flags.length
    let width := rest.takeWhile Char.isDigit
    let rest := rest.drop width.length
    let places := if rest.head? = some '.' then some (rest.tail.takeWhile Char.isDigit) else none
    let rest := match places with
      | some digits => rest.drop (digits.length + 1)
      | none => rest
    let rest := if rest.head? = some 'L' then rest.tail else rest
    match rest with
    | [] => refuse "ends in %".toList
    | letter :: rest =>
      if !"efgaEFGA".toList.contains letter then
        refuse ("has unknown %".toList ++ [letter] ++ " directive".toList)
      else
        let (after, rest) := plain steps rest []
        if rest ≠ [] then refuse "has too many % directives".toList
        else .ok { before, letter, after
                   layout := { flags, width := Text.digitsValue 10 width
                               precision := places.map (Text.digitsValue 10) } }

def number (format : Format) (value : Extended) : List Char :=
  value.format format.layout format.letter

def text (format : Format) (value : Extended) : List Char :=
  format.before ++ format.number value ++ format.after

/-- The format that shows the places of the first number and the step, in equal width if that is
asked for. -/
def usual (equalWidth : Bool) (first step last : Given) : Format :=
  match first.places, step.places, last.places with
  | some firstPlaces, some stepPlaces, some lastPlaces =>
    let places := Nat.max firstPlaces stepPlaces
    let firstWidth := first.width + (places - firstPlaces) +
      (if firstPlaces = 0 && places ≠ 0 then 1 else 0)
    let lastWidth := last.width + places - lastPlaces
    let lastWidth := if lastPlaces ≠ 0 && places = 0 then lastWidth - 1
      else if lastPlaces = 0 && places ≠ 0 then lastWidth + 1 else lastWidth
    { layout :=
        if equalWidth then
          { flags := ['0'], width := Nat.max firstWidth lastWidth, precision := some places }
        else { precision := some places } }
  | _, _, _ => { letter := 'g' }

end Format

inductive Item where
  | text (text : List Char)
  | final (text : List Char)
  | over

/-- The number at a position. One that lies just behind the last one counts if it is written as the
last one and not as the one before it. -/
def item (format : Format) (first step last : Extended) (position : Nat) : Item :=
  let value (position : Nat) : Extended :=
    if position = 0 then first else first.add ((Extended.ofInt position).mul step)
  let isOver (value : Extended) : Bool :=
    if step.less .zero then value.less last else last.less value
  let here := value position
  if !isOver here then .text (format.text here)
  else if position = 0 then .over
  else
    let shown := format.number here
    let isLast := (Extended.ofText? shown).any fun number => number.compare? last = some .eq
    if isLast && shown ≠ format.number (value (position - 1)) then .final (format.text here)
    else .over

def wholeItem (first step : Nat) (last : Option Nat) (position : Nat) : Item :=
  let here := first + position * step
  if last.all (here ≤ ·) then .text (toString here).toList else .over

/-- The items of a row, with the last one first, until they are so long together that the rest makes
no difference. Gives also whether that is all. -/
def gather (item : Nat → Item) (most : Nat) : Nat → Nat → Nat → List (List Char) →
    List (List Char) × Bool
  | 0, _, _, found => (found, false)
  | fuel + 1, position, size, found =>
    if most < size then (found, false)
    else match item position with
      | .text text =>
        gather item most fuel (position + 1) (size + text.length + 1) (text :: found)
      | .final text => (text :: found, true)
      | .over => (found, true)

def whole? (given : Given) : Option Nat :=
  match given.digits, given.value, given.places with
  | some digits, _, _ => some (Text.digitsValue 10 digits)
  | none, .finite false digits power, some 0 =>
    some ((digits <<< power.toNat) / (1 <<< (-power).toNat))
  | _, _, _ => none

end NumberRow

namespace Exec

open NumberRow

def seqForms : List OptionForm :=
  OptionForm.named [('w', "equal-width")] ++
    OptionForm.namedValued [('f', "format"), ('s', "separator")]

def maxRow : Nat := 4 * manyChars

def maxExactStep : Nat := 200

def seq (words : List (List Char)) : Exec Nat :=
  withOptions 1 .numbers seqForms words (fun _ => pure (.ok ())) fun _ arguments => do
    let operands := arguments.operands
    match operands with
    | [] => missingOperand
    | _ :: _ :: _ :: extra :: _ => misuse ("extra operand ".toList ++ quoted extra)
    | operands => do
      match (arguments.value? 'f').map Format.ofText with
      | some (.error message) => do
        programError message
        pure 1
      | some (.ok format) =>
        if arguments.has 'w' then
          misuse ("format string may not be specified when printing equal width strings").toList
        else run arguments (some format) operands
      | none => run arguments none operands
where
  run (arguments : Arguments) (format : Option NumberRow.Format) (operands : List (List Char)) :
      Exec Nat := do
    match operands.mapM Given.ofText with
    | .error fault => misuse fault.message
    | .ok given =>
      let one : Given := { value := .ofInt 1, width := 1 }
      match given with
      | [last] => showRow arguments format one one last
      | [first, last] => showRow arguments format first one last
      | [first, step, last] =>
        if step.value.compare? .zero = some .eq then
          misuse ("invalid Zero increment value: ".toList ++ quoted (operands[1]?.getD []))
        else showRow arguments format first step last
      | _ => missingOperand
  showRow (arguments : Arguments) (format : Option NumberRow.Format) (first step last : Given) :
      Exec Nat := do
    let separator := (arguments.value? 's').getD ['\n']
    let equalWidth := arguments.has 'w'
    let room := (← outputRoom).getD maxRow
    let isPlain := format.isNone && !equalWidth && separator.length = 1
    let exact : Option (Nat → Item) :=
      match whole? first, whole? step, whole? last with
      | some low, some by_, some high =>
        if isPlain && by_ ≤ maxExactStep then some (wholeItem low by_ (some high)) else none
      | some low, some by_, none =>
        if isPlain && by_ ≤ maxExactStep && last.value = .infinite false then
          some (wholeItem low by_ none)
        else none
      | _, _, _ => none
    let usual := format.getD (Format.usual equalWidth first step last)
    let items := exact.getD (item usual first.value step.value last.value)
    let (found, isAll) := gather items room (room + 2) 0 0 []
    if found ≠ [] then put (separator.intercalate found.reverse ++ ['\n'])
    if isAll then pure 0 else sleepForever

end Exec

end HouseStyle.Shell
