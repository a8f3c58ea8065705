import HouseStyle.Shell.Arithmetic
import HouseStyle.Shell.Decimal

namespace HouseStyle.Shell

/-! ## Escapes -/

def octalChar (digits : List Char) : Char :=
  Char.ofNat (Text.digitsValue 8 digits % 256)

def namedEscape? : Char → Option Char
  | 'a' => some '\x07'
  | 'b' => some '\x08'
  | 'e' => some '\x1b'
  | 't' => some '\t'
  | 'n' => some '\n'
  | 'v' => some '\x0b'
  | 'f' => some '\x0c'
  | 'r' => some '\r'
  | '\\' => some '\\'
  | _ => none

/-- The character of an escape, and how many characters after the backslash belong to it. In
arguments a zero may stand before the octal number. -/
def escape? (isArgument : Bool) (text : List Char) : Option (Char × Nat) :=
  match text with
  | [] => none
  | c :: rest =>
    if isArgument && c = '0' then
      let digits := (rest.take 3).takeWhile Arithmetic.isOctal
      some (octalChar digits, digits.length + 1)
    else if Arithmetic.isOctal c then
      let digits := (text.take 3).takeWhile Arithmetic.isOctal
      some (octalChar digits, digits.length)
    else (namedEscape? c).map (·, 1)

/-- An argument with its escapes carried out, up to an escape `c`, which ends all output. `skip`
characters belong to an escape that is done. -/
def escaped (skip : Nat) : List Char → List Char × Bool
  | [] => ([], false)
  | c :: rest =>
    match skip with
    | skip + 1 => escaped skip rest
    | 0 =>
      if c = '\\' then
        if rest.head? = some 'c' then ([], true)
        else match escape? true rest with
          | some (found, length) =>
            let (text, ended) := escaped length rest
            (found :: text, ended)
          | none =>
            let (text, ended) := escaped 0 rest
            ('\\' :: text, ended)
      else
        let (text, ended) := escaped 0 rest
        (c :: text, ended)

def echo (arguments : List (List Char)) : List Char :=
  let (arguments, ending) : List (List Char) × List Char := match arguments with
    | ['-', 'n'] :: rest => (rest, [])
    | arguments => (arguments, ['\n'])
  let (text, ended) := escaped 0 ([' '].intercalate arguments)
  if ended then text else text ++ ending

/-! ## Directives -/

structure Layout where
  flags : List Char := []
  width : Nat := 0
  precision : Option Nat := none
  deriving DecidableEq, Repr

namespace Layout

def isTooWide (layout : Layout) : Bool :=
  layout.width > 0x7FFFFFFF || layout.precision.any (· > 0x7FFFFFFF)

def has (layout : Layout) (flag : Char) : Bool :=
  layout.flags.contains flag

def fill (layout : Layout) (text : List Char) : List Char :=
  let blanks := List.replicate (layout.width - text.length) ' '
  if layout.has '-' then text ++ blanks else blanks ++ text

def fillNumber (layout : Layout) (zeros : Bool) (sign digits : List Char) : List Char :=
  if zeros && layout.has '0' && !layout.has '-' then
    sign ++ List.replicate (layout.width - sign.length - digits.length) '0' ++ digits
  else layout.fill (sign ++ digits)

def text (layout : Layout) (text : List Char) : List Char :=
  layout.fill (match layout.precision with
    | some length => text.take length
    | none => text)

def digits (layout : Layout) (digits : List Char) : List Char :=
  match layout.precision with
  | some 0 => if digits = ['0'] then [] else digits
  | some length => List.replicate (length - digits.length) '0' ++ digits
  | none => digits

def sign (layout : Layout) (negative : Bool) : List Char :=
  if negative then ['-'] else if layout.has '+' then ['+'] else if layout.has ' ' then [' '] else []

def signed (layout : Layout) (n : Int) : List Char :=
  layout.fillNumber layout.precision.isNone (layout.sign (n < 0))
    (layout.digits (toString n.natAbs).toList)

def unsigned (layout : Layout) (letter : Char) (n : Nat) : List Char :=
  let base := match letter with
    | 'o' => 8
    | 'u' => 10
    | _ => 16
  let low := layout.digits (Nat.toDigits base n)
  let low := if letter = 'o' && layout.has '#' && low.head? ≠ some '0' then '0' :: low else low
  let mark := if base = 16 && layout.has '#' && n ≠ 0 then ['0', 'x'] else []
  let upper (text : List Char) := if letter = 'X' then text.map Char.toUpper else text
  layout.fillNumber layout.precision.isNone (upper mark) (upper low)

def float (layout : Layout) (letter : Char) (negative : Bool) (bits : Nat) : List Char :=
  let upper (text : List Char) := if letter.isUpper then text.map Char.toUpper else text
  let sign := layout.sign negative
  if bits = Binary64.infinity then layout.fill (sign ++ upper ['i', 'n', 'f'])
  else if bits > Binary64.infinity then layout.fill (sign ++ upper ['n', 'a', 'n'])
  else if letter.toLower = 'a' then
    layout.fillNumber true (sign ++ upper ['0', 'x'])
      (upper (Decimal.hexadecimal bits layout.precision (layout.has '#')))
  else
    layout.fillNumber true sign (upper (Decimal.written letter.toLower (layout.precision.getD 6)
      (layout.has '#') (Decimal.Quotient.ofBits bits)))

end Layout

/-! ## Numbers in arguments -/

structure ReadNumber (α : Type) where
  value : α
  fault : Option String := none

def faultOf (text rest : List Char) : Option String :=
  if rest = [] then none
  else if rest.length = text.length then some "expected numeric value"
  else some "not completely converted"

def outOfRange : String := "Numerical result out of range"

def wholeNumber? (text : List Char) : Option (Nat × List Char) :=
  match text with
  | '0' :: x :: rest =>
    let digits := rest.takeWhile Text.isHexDigit
    if (x = 'x' || x = 'X') && digits ≠ [] then
      some (Text.digitsValue 16 digits, rest.drop digits.length)
    else
      let digits := text.takeWhile Arithmetic.isOctal
      some (Text.digitsValue 8 digits, text.drop digits.length)
  | c :: _ =>
    let digits := text.takeWhile Char.isDigit
    if c.isDigit then some (Text.digitsValue 10 digits, text.drop digits.length) else none
  | [] => none

def readInteger (text : List Char) : ReadNumber Int :=
  match text with
  | '"' :: rest | '\'' :: rest => { value := ((rest.head?.map Char.toNat).getD 0 : Nat) }
  | _ =>
    let (negative, digits) := Arithmetic.signOf (text.dropWhile Arithmetic.isBlank)
    match wholeNumber? digits with
    | none => { value := 0, fault := faultOf text text }
    | some (n, rest) =>
      { value := if negative then -(n : Int) else n, fault := faultOf text rest }

def readSigned (text : List Char) : ReadNumber Int :=
  let number := readInteger text
  if Arithmetic.clamp number.value = number.value then number
  else { value := Arithmetic.clamp number.value, fault := number.fault.or (some outOfRange) }

def readUnsigned (text : List Char) : ReadNumber Nat :=
  let number := readInteger text
  if number.value.natAbs < Arithmetic.modulus then
    { value := Arithmetic.bits number.value, fault := number.fault }
  else { value := Arithmetic.bits (-1), fault := number.fault.or (some outOfRange) }

def exponentOf (letters : List Char) (text : List Char) : Int × List Char :=
  match text with
  | letter :: after =>
    let (minus, digits) := Arithmetic.signOf after
    let taken := digits.takeWhile Char.isDigit
    if letter ∈ letters && taken ≠ [] then
      let size : Int := Text.digitsValue 10 (taken.take 6)
      (if minus then -size else size, digits.drop taken.length)
    else (0, text)
  | [] => (0, [])

/-- A number with a fraction and an exponent at the start of a text: its digits, the power by which
they are scaled, and what follows. -/
def scaledNumber? (isDigit : Char → Bool) (base perDigit : Nat) (letters text : List Char) :
    Option (Nat × Int × List Char) :=
  let whole := text.takeWhile isDigit
  let rest := text.drop whole.length
  let fraction := if rest.head? = some '.' then rest.tail.takeWhile isDigit else []
  if whole = [] && fraction = [] then none
  else
    let rest := if rest.head? = some '.' then rest.drop (fraction.length + 1) else rest
    let (exponent, rest) := exponentOf letters rest
    let digits := Text.digitsValue base (whole ++ fraction)
    some (digits, exponent - (perDigit * fraction.length : Nat), rest)

/-- A number with a fraction at the start of a text as digits and a power of ten, and what follows
it. Hexadecimal digits are scaled by a power of two. -/
def scaledDigits? (text : List Char) : Option (Nat × Int × List Char) :=
  let hexadecimal := match text with
    | '0' :: x :: rest =>
      if x = 'x' || x = 'X' then scaledNumber? Text.isHexDigit 16 4 ['p', 'P'] rest else none
    | _ => none
  match hexadecimal with
  | some (digits, power, rest) =>
    if 0 ≤ power then some (digits <<< power.toNat, 0, rest)
    else some (digits * Nat.pow 5 power.natAbs, power, rest)
  | none => scaledNumber? Char.isDigit 10 1 ['e', 'E'] text

def readFloat (text : List Char) : ReadNumber (Bool × Nat) :=
  let (negative, start) := Arithmetic.signOf (text.dropWhile Arithmetic.isBlank)
  let lower := start.map Char.toLower
  let named (name : String) (bits : Nat) : ReadNumber (Bool × Nat) :=
    { value := (negative, bits), fault := faultOf text (start.drop name.length) }
  match text with
  | '"' :: rest | '\'' :: rest =>
    { value := (false, Binary64.ofDecimal ((rest.head?.map Char.toNat).getD 0) 0) }
  | _ =>
    if "infinity".toList.isPrefixOf lower then named "infinity" Binary64.infinity
    else if "inf".toList.isPrefixOf lower then named "inf" Binary64.infinity
    else if "nan".toList.isPrefixOf lower then named "nan" Binary64.nan
    else match scaledDigits? start with
      | none => { value := (negative, 0), fault := faultOf text text }
      | some (digits, power, rest) =>
        let bits := Binary64.ofDecimal digits power
        let isLost := bits = Binary64.infinity || digits ≠ 0 && bits < Binary64.leastNormal
        { value := (negative, bits)
          fault := (faultOf text rest).or (if isLost then some outOfRange else none) }

/-! ## Formats -/

/-- What a format has written, with the last character first, what it complained about, and what is
left of the arguments. -/
structure Printed where
  output : List Char := []
  complaints : List (List Char) := []
  arguments : List (List Char)
  ended : Bool := false
  fault : Option (List Char) := none

namespace Printed

def put (printed : Printed) (text : List Char) : Printed :=
  { printed with output := text.reverse ++ printed.output }

def take (printed : Printed) : List Char × Printed :=
  (printed.arguments.headD [], { printed with arguments := printed.arguments.tail })

def complain (printed : Printed) (argument : List Char) : Option String → Printed
  | some fault =>
    { printed with complaints := printed.complaints ++ [argument ++ [':', ' '] ++ fault.toList] }
  | none => printed

def number (printed : Printed) (format : List Char) : Int × List Char × Printed :=
  match format with
  | '*' :: rest =>
    let (argument, printed) := printed.take
    let read := readSigned argument
    (read.value.bmod 0x100000000, rest, printed.complain argument read.fault)
  | _ =>
    let digits := format.takeWhile fun c => c.isDigit || c = '*'
    (Text.digitsValue 10 digits, format.drop digits.length, printed)

def directive (printed : Printed) (layout : Layout) (letter : Char) (spelled : List Char) :
    Printed :=
  let (argument, after) := printed.take
  if layout.isTooWide && "sbcdiouxXaAeEfFgG".toList.contains letter then
    { printed with fault := some "xvsnprintf failed".toList }
  else match letter with
  | 's' => after.put (layout.text argument)
  | 'b' =>
    let (text, ended) := escaped 0 argument
    { after.put (layout.text text) with ended }
  | 'c' => after.put (layout.fill [argument.headD '\x00'])
  | 'd' | 'i' =>
    let read := readSigned argument
    (after.complain argument read.fault).put (layout.signed read.value)
  | 'o' | 'u' | 'x' | 'X' =>
    let read := readUnsigned argument
    (after.complain argument read.fault).put (layout.unsigned letter read.value)
  | 'a' | 'A' | 'e' | 'E' | 'f' | 'F' | 'g' | 'G' =>
    let read := readFloat argument
    (after.complain argument read.fault).put
      (layout.float letter read.value.1 read.value.2)
  | _ => { printed with fault := some (spelled ++ ": invalid directive".toList) }

def pass : Nat → Printed → List Char → Printed
  | 0, printed, _ => printed
  | _ + 1, printed, [] => printed
  | steps + 1, printed, c :: rest =>
    if printed.ended || printed.fault.isSome then printed
    else if c = '\\' then
      match escape? false rest with
      | some (found, length) => pass steps (printed.put [found]) (rest.drop length)
      | none => pass steps (printed.put ['\\']) rest
    else if c ≠ '%' then pass steps (printed.put [c]) rest
    else if rest.head? = some '%' then pass steps (printed.put ['%']) rest.tail
    else
      let flags := rest.takeWhile (· ∈ ['#', '-', '+', ' ', '0'])
      let (width, after, printed) := printed.number (rest.drop flags.length)
      let flags := if width < 0 then '-' :: flags else flags
      let (precision, after, printed) : Option Nat × List Char × Printed :=
        match after with
        | '.' :: after =>
          let (precision, after, printed) := printed.number after
          (if precision < 0 then none else some precision.toNat, after, printed)
        | after => (none, after, printed)
      match after with
      | [] => { printed with fault := some "missing format character".toList }
      | letter :: after =>
        let spelled := '%' :: rest.take (rest.length - after.length)
        let layout : Layout := { flags, width := width.natAbs, precision }
        pass steps (printed.directive layout letter spelled) after

def passes (format : List Char) : Nat → Printed → Printed
  | 0, printed => printed
  | count + 1, printed =>
    let before := printed.arguments.length
    let printed := pass (format.length + 1) printed format
    if printed.ended || printed.fault.isSome || printed.arguments = [] ||
      printed.arguments.length = before then printed
    else passes format count printed

end Printed

def printf (format : List Char) (arguments : List (List Char)) : Printed :=
  Printed.passes format (arguments.length + 1) { arguments }

end HouseStyle.Shell
