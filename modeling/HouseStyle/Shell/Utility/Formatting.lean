import HouseStyle.Shell.Extended
import HouseStyle.Shell.Utility.Basic

namespace HouseStyle.Shell.Exec

/-! ## Escapes -/

inductive Meaning where
  | text (text : List Char)
  | ending
  | fault
  deriving DecidableEq, Repr

inductive EscapePlace where
  | word
  | format
  | argument
  deriving DecidableEq, Repr

def universalText (digits : List Char) : List Char :=
  let number := Text.digitsValue 16 digits
  if number < 0x80 then [Char.ofNat number]
  else
    let hex := (Nat.toDigits 16 number).map Char.toUpper
    let width := if number < 0x10000 then 4 else 8
    (if width = 4 then ['\\', 'u'] else ['\\', 'U']) ++
      List.replicate (width - hex.length) '0' ++ hex

def meaningOf (place : EscapePlace) (text : List Char) : Meaning × Nat :=
  let octal (digits : List Char) (before : Nat) : Meaning × Nat :=
    (.text [Char.ofNat (Text.digitsValue 8 digits % 256)], before + digits.length)
  let plain := [('\\', '\\'), ('a', '\x07'), ('b', '\x08'), ('e', '\x1b'), ('f', '\x0c'),
    ('n', '\n'), ('r', '\r'), ('t', '\t'), ('v', '\x0b')]
  match text with
  | [] => (.text ['\\'], 0)
  | c :: rest =>
    if c = 'c' then (.ending, 1)
    else if c = 'x' then
      let digits := (rest.take 2).takeWhile Text.isHexDigit
      if digits ≠ [] then (.text [Char.ofNat (Text.digitsValue 16 digits)], 1 + digits.length)
      else if place = .word then (.text ['\\', 'x'], 1)
      else (.fault, 1)
    else if c = '0' && place ≠ .format then octal ((rest.take 3).takeWhile Arithmetic.isOctal) 1
    else if Arithmetic.isOctal c then octal ((text.take 3).takeWhile Arithmetic.isOctal) 0
    else if (c = 'u' || c = 'U') && place ≠ .word then
      let count := if c = 'u' then 4 else 8
      let digits := (rest.take count).takeWhile Text.isHexDigit
      if digits.length = count then (.text (universalText digits), 1 + count) else (.fault, 1)
    else match plain.lookup c with
      | some meant => (.text [meant], 1)
      | none =>
        if c = '"' && place ≠ .word then (.text ['"'], 1) else (.text ['\\', c], 1)

inductive TextEnd where
  | complete
  | cut
  | fault
  deriving DecidableEq, Repr

def carryOut (place : EscapePlace) : Nat → List Char → List Char → List Char × TextEnd
  | 0, output, _ => (output, .complete)
  | _ + 1, output, [] => (output, .complete)
  | steps + 1, output, c :: rest =>
    if c ≠ '\\' then carryOut place steps (c :: output) rest
    else match meaningOf place rest with
      | (.text text, count) =>
        carryOut place steps (text.reverse ++ output) (rest.drop count)
      | (.ending, _) => (output, .cut)
      | (.fault, _) => (output, .fault)

/-- Show words. Options stand in front: whether the line is ended, and whether escapes are carried
out. -/
def repeatWords (words : List (List Char)) : Exec Nat := do
  let isOption (word : List Char) : Bool :=
    word.length > 1 && word.head? = some '-' && word.tail.all (· ∈ ['n', 'e', 'E'])
  let letters := (words.takeWhile isOption).flatten
  let text := [' '].intercalate (words.dropWhile isOption)
  let carriedOut := (letters.filter fun c => c = 'e' || c = 'E').getLast? = some 'e'
  let (text, ending) := if carriedOut then
      let (output, ending) := carryOut .word (text.length + 1) [] text
      (output.reverse, ending)
    else (text, .complete)
  put (if ending = .cut || letters.contains 'n' then text else text ++ ['\n'])
  pure 0

/-! ## Formats -/

structure FormatState where
  arguments : List (List Char)
  isGood : Bool := true

abbrev Formatting := ExceptT Nat (StateT FormatState Exec)

def nextArgument : Formatting (Option (List Char)) := do
  let state ← get
  set { state with arguments := state.arguments.tail }
  pure state.arguments.head?

def stopFormat {α : Type} (message : List Char) : Formatting α := do
  programError message
  throw 1

def noteNumber (argument : List Char) (fault : Option String) : Formatting Unit := do
  match fault with
  | none => pure ()
  | some fault => do
    let text := match fault with
      | "expected numeric value" => "expected a numeric value"
      | "not completely converted" => "value not completely converted"
      | fault => fault
    programError (quoted argument ++ [':', ' '] ++ text.toList)
    modify fun state => { state with isGood := false }

def quotedNumber? (argument : List Char) : Formatting (Option Nat) := do
  match argument with
  | quote :: c :: rest =>
    if quote = '\'' || quote = '"' then do
      if rest ≠ [] then
        programError ("warning: ".toList ++ rest ++
          ": character(s) following character constant have been ignored".toList)
      pure (some c.toNat)
    else pure none
  | _ => pure none

def takeSigned (argument : List Char) : Formatting Int := do
  match (← quotedNumber? argument) with
  | some number => pure number
  | none => do
    let isLone : Bool := argument = ['\''] || argument = ['"']
    let read := if isLone then { value := 0, fault := some "expected numeric value" }
      else readSigned argument
    noteNumber argument read.fault
    pure read.value

def takeUnsigned (argument : List Char) : Formatting Nat := do
  match (← quotedNumber? argument) with
  | some number => pure number
  | none => do
    let isLone : Bool := argument = ['\''] || argument = ['"']
    let read := if isLone then { value := 0, fault := some "expected numeric value" }
      else readUnsigned argument
    noteNumber argument read.fault
    pure read.value

def takeExtended (argument : List Char) : Formatting Extended := do
  match (← quotedNumber? argument) with
  | some number => pure (Extended.ofInt number)
  | none => do
    match Extended.read? argument with
    | none => do
      noteNumber argument (faultOf argument argument)
      pure Extended.zero
    | some (value, rest) => do
      noteNumber argument (if rest ≠ [] then some "not completely converted" else none)
      pure value

def takeExtent (what : String) (format : List Char) : Formatting (Option Int × List Char) := do
  match format with
  | '*' :: rest => do
    match (← nextArgument) with
    | none => pure (some 0, rest)
    | some argument => do
      let value ← takeSigned argument
      if value < -0x80000000 || 0x7FFFFFFF < value then
        stopFormat (("invalid " ++ what ++ ": ").toList ++ quoted argument)
      else pure (some value, rest)
  | _ =>
    let digits := format.takeWhile Char.isDigit
    let value := if digits = [] then none else some (Text.digitsValue 10 digits : Int)
    pure (value, format.drop digits.length)

def allowedLetters (flags : List Char) (hasPrecision : Bool) : List Char :=
  let banned := flags.flatMap fun
    | '\'' | 'I' => "aAceEosxX".toList
    | '#' => "cdisu".toList
    | '0' => ['c', 's']
    | _ => []
  "aAcdeEfFgGiosuxX".toList.filter fun letter =>
    !banned.contains letter && !(hasPrecision && letter = 'c')

def writeDirective (layout : Layout) (letter : Char) : Formatting Unit := do
  let argument ← nextArgument
  let text := argument.getD []
  match letter with
  | 's' => put (layout.text text)
  | 'c' => put (layout.fill [text.headD '\x00'])
  | 'd' | 'i' => do put (layout.signed (← takeSigned text))
  | 'o' | 'u' | 'x' | 'X' => do put (layout.unsigned letter (← takeUnsigned text))
  | _ => do put ((← takeExtended text).format layout letter)

def formatDirective (format : List Char) : Formatting (List Char) := do
  match format with
  | '%' :: rest => do
    put ['%']
    pure rest
  | 'b' :: rest => do
    let argument := (← nextArgument).getD []
    let (output, ending) := carryOut .argument (argument.length + 1) [] argument
    put output.reverse
    match ending with
    | .complete => pure rest
    | .cut => throw 0
    | .fault => stopFormat "missing hexadecimal number in escape".toList
  | 'q' :: rest => do
    match (← nextArgument) with
    | some argument => put (Quotation.styled .shellEscape (fun _ => false) argument)
    | none => pure ()
    pure rest
  | _ => do
    let flags := format.takeWhile ("-+ #0'I".toList.contains ·)
    let (width, after) ← takeExtent "field width" (format.drop flags.length)
    let (precision, after) : Option (Option Int) × List Char ← match after with
      | '.' :: after => do
        let (precision, after) ← takeExtent "precision" after
        pure (some precision, after)
      | after => pure (none, after)
    let after := after.dropWhile ("lLhjtz".toList.contains ·)
    let spelled := '%' :: format.take (format.length - after.length + 1)
    let invalid := spelled ++ ": invalid conversion specification".toList
    match after with
    | [] => stopFormat invalid
    | letter :: rest => do
      if !(allowedLetters flags precision.isSome).contains letter then stopFormat invalid
      else do
        let width := width.getD 0
        let layout : Layout := {
          flags := if width < 0 then '-' :: flags else flags
          width := width.natAbs
          precision := precision.bind fun precision =>
            let value := precision.getD 0
            if value < 0 then none else some value.toNat }
        writeDirective layout letter
        pure rest

def formatPass : Nat → List Char → Formatting Unit
  | 0, _ => pure ()
  | _ + 1, [] => pure ()
  | steps + 1, c :: rest => do
    if c = '%' then do formatPass steps (← formatDirective rest)
    else if c = '\\' then
      match meaningOf .format rest with
      | (.text text, count) => do
        put text
        formatPass steps (rest.drop count)
      | (.ending, _) => throw 0
      | (.fault, _) => stopFormat "missing hexadecimal number in escape".toList
    else do
      put [c]
      formatPass steps rest

def formatPasses (format : List Char) : Nat → Formatting Unit
  | 0 => pure ()
  | count + 1 => do
    let before := (← get).arguments.length
    formatPass (format.length + 1) format
    match (← get).arguments with
    | [] => pure ()
    | argument :: rest =>
      if rest.length + 1 = before then
        programError ("warning: ignoring excess arguments, starting with ".toList ++
          quoted argument)
      else formatPasses format count

def printf (words : List (List Char)) : Exec Nat := do
  let words := if words.head? = some ['-', '-'] then words.tail else words
  match words with
  | [] => missingOperand
  | format :: arguments => do
    let run := (formatPasses format (arguments.length + 1)).run.run { arguments }
    let (result, state) ← run
    pure (match result with
      | .error 0 | .ok () => if state.isGood then 0 else 1
      | .error status => status)

end HouseStyle.Shell.Exec
