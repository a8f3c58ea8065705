import HouseStyle.Binary64

/-!
# Written forms of binary numbers

A number is written with a fixed number of places, with an exponent, or in the shorter of the two
ways; or in hexadecimal digits with a binary exponent. The last digit is rounded to the nearest, and
to the even one of two.
-/

namespace HouseStyle.Shell.Decimal

structure Quotient where
  numerator : Nat
  denominator : Nat

def Quotient.ofBits (bits : Nat) : Quotient :=
  let field := bits >>> 52
  let fraction := bits % 0x10000000000000
  let digits := if field = 0 then fraction else fraction + 0x10000000000000
  let exponent : Int := (if field = 0 then 1 else field) - 1075
  ⟨digits <<< exponent.toNat, 1 <<< (-exponent).toNat⟩

def Quotient.scaled (quotient : Quotient) (power : Int) : Nat :=
  Binary64.roundQuotient (quotient.numerator * Nat.pow 10 power.toNat)
    (quotient.denominator * Nat.pow 10 (-power).toNat)

def Quotient.magnitude (quotient : Quotient) : Int :=
  let whole := quotient.numerator / quotient.denominator
  if quotient.numerator = 0 then 0
  else if whole ≠ 0 then (toString whole).length - 1
  else
    let whole := quotient.denominator / quotient.numerator
    let guess := (toString whole).length
    let reaches := quotient.denominator ≤ quotient.numerator * Nat.pow 10 (guess - 1)
    let places := if reaches then guess - 1 else guess
    0 - (places : Int)

def padded (width number : Nat) : List Char :=
  let digits := (toString number).toList
  List.replicate (width - digits.length) '0' ++ digits

/-- Whole digits and digits behind a point; without the latter there is no point unless asked
for. -/
def pointed (whole fraction : List Char) (keepPoint : Bool) : List Char :=
  if fraction = [] && !keepPoint then whole else whole ++ '.' :: fraction

def fixed (quotient : Quotient) (places : Nat) (keepPoint : Bool) : List Char :=
  let digits := padded (places + 1) (quotient.scaled places)
  pointed (digits.take (digits.length - places)) (digits.drop (digits.length - places)) keepPoint

def significant (quotient : Quotient) (places : Nat) : List Char × Int :=
  let magnitude := quotient.magnitude
  let digits := padded (places + 1) (quotient.scaled (places - magnitude))
  if digits.length > places + 1 then (digits.take (places + 1), magnitude + 1)
  else (digits, magnitude)

def exponentText (exponent : Int) : List Char :=
  'e' :: (if exponent < 0 then '-' else '+') :: padded 2 exponent.natAbs

def scientific (quotient : Quotient) (places : Nat) (keepPoint : Bool) : List Char :=
  let (digits, exponent) := significant quotient places
  pointed (digits.take 1) (digits.drop 1) keepPoint ++ exponentText exponent

def dropZeros (digits : List Char) : List Char :=
  (digits.reverse.dropWhile (· = '0')).reverse

/-- The form with an exponent for very small and large numbers, and the other one else. Zeros at the
end are left out unless they are asked for. -/
def general (quotient : Quotient) (precision : Nat) (keepZeros : Bool) : List Char :=
  let precision := if precision = 0 then 1 else precision
  let (digits, exponent) := significant quotient (precision - 1)
  let short (digits : List Char) := if keepZeros then digits else dropZeros digits
  if -4 ≤ exponent && exponent < precision then
    let text := fixed quotient ((precision : Int) - 1 - exponent).toNat keepZeros
    if text.contains '.' && !keepZeros then
      let whole := text.takeWhile (· ≠ '.')
      pointed whole (dropZeros (text.drop (whole.length + 1))) false
    else text
  else
    pointed (digits.take 1) (short (digits.drop 1)) keepZeros ++ exponentText exponent

def written (letter : Char) (precision : Nat) (keepPoint : Bool) (quotient : Quotient) :
    List Char :=
  match letter with
  | 'e' => scientific quotient precision keepPoint
  | 'g' => general quotient precision keepPoint
  | _ => fixed quotient precision keepPoint

/-- The hexadecimal form of the number that 64 bits stand for, with as many digits behind the point
as are asked for or needed. -/
def hexadecimal (bits : Nat) (precision : Option Nat) (keepPoint : Bool) : List Char :=
  let field := bits >>> 52
  let digits := bits % leading + (if field = 0 then 0 else leading)
  let exponent : Int := if bits = 0 then 0 else (if field = 0 then 1 else field) - 1023
  let places := Nat.min (precision.getD 13) 13
  let rounded := Binary64.roundQuotient digits (1 <<< (4 * (13 - places)))
  let fraction := Nat.toDigits 16 (rounded % (1 <<< (4 * places)))
  let fraction := (List.replicate (places - fraction.length) '0' ++ fraction).take places
  let fraction := match precision with
    | some precision => fraction ++ List.replicate (precision - places) '0'
    | none => dropZeros fraction
  pointed (toString (rounded >>> (4 * places))).toList fraction keepPoint ++
    'p' :: (if exponent < 0 then '-' else '+') :: (toString exponent.natAbs).toList
where
  leading : Nat := 0x10000000000000

end HouseStyle.Shell.Decimal
