import HouseStyle.Shell.Printing

namespace HouseStyle.Shell.Awk

inductive Value where
  | unset
  | number (value : Float)
  | text (text : List Char)
  | input (text : List Char)

def isSpace (c : Char) : Bool :=
  c = ' ' || ('\t' ≤ c && c ≤ '\r')

def ofBits (negative : Bool) (bits : Nat) : Float :=
  let value := Float.ofBits (UInt64.ofNat bits)
  if negative then -value else value

def numberAt? (text : List Char) : Option (Float × List Char) :=
  let (negative, start) := Arithmetic.signOf (text.dropWhile isSpace)
  let lower := (start.take 8).map Char.toLower
  let named (name : String) (bits : Nat) : Option (Float × List Char) :=
    some (ofBits negative bits, start.drop name.length)
  if "infinity".toList.isPrefixOf lower then named "infinity" Binary64.infinity
  else if "inf".toList.isPrefixOf lower then named "inf" Binary64.infinity
  else if "nan".toList.isPrefixOf lower then named "nan" Binary64.nan
  else (scaledDigits? start).map fun (digits, power, rest) =>
    (ofBits negative (Binary64.ofDecimal digits power), rest)

def numberOf (text : List Char) : Float :=
  match text with
  | [c] => if c.isDigit then Float.ofNat (c.toNat - 48) else 0
  | text => ((numberAt? text).map (·.1)).getD 0

def looksNumeric (text : List Char) : Bool :=
  let start := text.dropWhile isSpace
  let last := (start.reverse.dropWhile isSpace).head?
  let isStart : Bool := match start with
    | c :: _ => c.isDigit || c = '+' || c = '-' || c = '.'
    | [] => false
  if isStart && last.any (fun c => c.isDigit || c = '.') then
    match numberAt? start with
    | some (_, rest) => rest.all isSpace
    | none => false
  else false

def bitsOf (value : Float) : Bool × Nat :=
  let bits := value.toBits.toNat
  (bits ≥ Binary64.signBit, bits % Binary64.signBit)

def whole? (value : Float) : Option Int :=
  let (negative, bits) := bitsOf value
  if Binary64.infinity ≤ bits then none
  else
    let quotient := Decimal.Quotient.ofBits bits
    if quotient.numerator % quotient.denominator = 0 then
      let size : Int := quotient.numerator / quotient.denominator
      some (if negative then -size else size)
    else none

def truncated (value : Float) : Int :=
  let (negative, bits) := bitsOf value
  if Binary64.infinity ≤ bits then -0x8000000000000000
  else
    let quotient := Decimal.Quotient.ofBits bits
    let size : Int := quotient.numerator / quotient.denominator
    if negative then -size else size

def largestWhole : Int := 0xFFFFFFFFFFFFFFFF

def floatText (layout : Layout) (letter : Char) (value : Float) : List Char :=
  let (negative, bits) := bitsOf value
  if Binary64.infinity < bits then layout.float letter true bits
  else layout.float letter negative bits

def plainText? (value : Float) : Option (List Char) :=
  match whole? value with
  | some n =>
    if n ≤ largestWhole then
      if -0x8000000000000000 ≤ n then some (toString n).toList else none
    else if n = largestWhole + 1 then some (toString largestWhole).toList
    else none
  | none => none

namespace Value

def toNumber : Value → Float
  | unset => 0
  | number value => value
  | text chars | input chars => numberOf chars

def toText (write : Float → List Char) : Value → List Char
  | unset => []
  | number value => (plainText? value).getD (write value)
  | text chars | input chars => chars

def isNumeric : Value → Bool
  | number _ | unset => true
  | text _ => false
  | input chars => looksNumeric chars

def isTrue : Value → Bool
  | unset => false
  | number value => value != 0
  | text chars => chars ≠ []
  | input chars => if looksNumeric chars then numberOf chars != 0 else chars ≠ []

def ofBool (holds : Bool) : Value :=
  number (if holds then 1 else 0)

def ofNat (n : Nat) : Value :=
  number (Float.ofNat n)

end Value

def compareTexts : List Char → List Char → Ordering
  | [], [] => .eq
  | [], _ :: _ => .lt
  | _ :: _, [] => .gt
  | a :: left, b :: right =>
    if a.toNat < b.toNat then .lt
    else if b.toNat < a.toNat then .gt
    else compareTexts left right

end HouseStyle.Shell.Awk
