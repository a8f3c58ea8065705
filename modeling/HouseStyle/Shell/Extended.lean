import HouseStyle.Shell.Printing

namespace HouseStyle.Shell

inductive Extended where
  | finite (negative : Bool) (digits : Nat) (power : Int)
  | infinite (negative : Bool)
  | notNumber (negative : Bool)
  deriving DecidableEq, Repr

namespace Extended

def zero : Extended := finite false 0 0

def isNegative : Extended → Bool
  | finite negative _ _ | infinite negative | notNumber negative => negative

def isFinite : Extended → Bool
  | finite _ _ _ => true
  | _ => false

def leastPower : Int := -16445

def greatestPower : Int := 16384

def ofQuotient (negative : Bool) (numerator denominator : Nat) : Extended :=
  if numerator = 0 then finite negative 0 0
  else
    let guess : Int := numerator.log2 - denominator.log2
    let reaches := numerator <<< (-guess).toNat ≥ denominator <<< guess.toNat
    let exponent := if reaches then guess else guess - 1
    let power := if exponent - 63 < leastPower then leastPower else exponent - 63
    let digits := Binary64.roundQuotient (numerator <<< (-power).toNat) (denominator <<< power.toNat)
    if greatestPower ≤ power + (digits.log2 : Int) then infinite negative
    else finite negative digits power

/-- The number nearest to digits times a power of ten. Numbers that are far out of range are not
computed. -/
def ofDecimal (negative : Bool) (digits : Nat) (power : Int) : Extended :=
  let size := (toString digits).length + power
  if digits = 0 || size < -5000 then finite negative 0 0
  else if size > 5000 then infinite negative
  else ofQuotient negative (digits * Nat.pow 10 power.toNat) (Nat.pow 10 (-power).toNat)

def ofInt (n : Int) : Extended :=
  ofQuotient (n < 0) n.natAbs 1

def ofUnits (units power : Int) : Extended :=
  ofQuotient (units < 0) (units.natAbs <<< power.toNat) (1 <<< (-power).toNat)

def aligned (left right : Bool × Nat × Int) : Int × Int × Int :=
  let (leftNegative, leftDigits, leftPower) := left
  let (rightNegative, rightDigits, rightPower) := right
  let power := if leftPower < rightPower then leftPower else rightPower
  let units (negative : Bool) (digits : Nat) (own : Int) : Int :=
    let size : Int := digits <<< (own - power).toNat
    if negative then -size else size
  (units leftNegative leftDigits leftPower, units rightNegative rightDigits rightPower, power)

def add : Extended → Extended → Extended
  | finite a m p, finite b n q =>
    let (left, right, power) := aligned (a, m, p) (b, n, q)
    if left + right = 0 then finite (a && b) 0 0 else ofUnits (left + right) power
  | infinite a, infinite b => if a = b then infinite a else notNumber false
  | infinite a, finite _ _ _ | finite _ _ _, infinite a => infinite a
  | notNumber a, _ | _, notNumber a => notNumber a

def mul : Extended → Extended → Extended
  | finite a m p, finite b n q =>
    let size := m * n
    let power := p + q
    ofQuotient (a != b) (size <<< power.toNat) (1 <<< (-power).toNat)
  | infinite a, finite b n _ | finite b n _, infinite a =>
    if n = 0 then notNumber false else infinite (a != b)
  | infinite a, infinite b => infinite (a != b)
  | notNumber a, _ | _, notNumber a => notNumber a

def compare? : Extended → Extended → Option Ordering
  | finite a m p, finite b n q =>
    let (left, right, _) := aligned (a, m, p) (b, n, q)
    some (if left < right then .lt else if right < left then .gt else .eq)
  | infinite a, infinite b => some (if a = b then .eq else if a then .lt else .gt)
  | infinite a, finite _ _ _ => some (if a then .lt else .gt)
  | finite _ _ _, infinite a => some (if a then .gt else .lt)
  | _, _ => none

def less (left right : Extended) : Bool :=
  left.compare? right = some .lt

/-! ## Reading -/

def read? (text : List Char) : Option (Extended × List Char) :=
  let (negative, start) := Arithmetic.signOf (text.dropWhile Arithmetic.isBlank)
  let lower := start.map Char.toLower
  if "infinity".toList.isPrefixOf lower then some (infinite negative, start.drop 8)
  else if "inf".toList.isPrefixOf lower then some (infinite negative, start.drop 3)
  else if "nan".toList.isPrefixOf lower then some (notNumber negative, start.drop 3)
  else (scaledDigits? start).map fun (digits, power, rest) =>
    (ofDecimal negative digits power, rest)

def ofText? (text : List Char) : Option Extended :=
  match read? text with
  | some (number, []) => some number
  | _ => none

/-! ## Writing -/

/-- The hexadecimal form: four bits before the point and as many digits behind it as are asked for
or needed. -/
def hexadecimal (digits : Nat) (power : Int) (precision : Option Nat) (keepPoint : Bool) :
    List Char :=
  let shift := 63 - digits.log2
  let full := if digits = 0 then 0 else digits <<< shift
  let exponent : Int := if digits = 0 then 0 else power - shift + 60
  let places := Nat.min (precision.getD 15) 15
  let rounded := Binary64.roundQuotient full (1 <<< (4 * (15 - places)))
  let isCarried := 16 <<< (4 * places) ≤ rounded
  let rounded := if isCarried then rounded >>> 4 else rounded
  let exponent := if isCarried then exponent + 4 else exponent
  let fraction := Nat.toDigits 16 (rounded % (1 <<< (4 * places)))
  let fraction := (List.replicate (places - fraction.length) '0' ++ fraction).take places
  let fraction := match precision with
    | some precision => fraction ++ List.replicate (precision - places) '0'
    | none => Decimal.dropZeros fraction
  Decimal.pointed (Nat.toDigits 16 (rounded >>> (4 * places))) fraction keepPoint ++
    'p' :: (if exponent < 0 then '-' else '+') :: (toString exponent.natAbs).toList

def format (number : Extended) (layout : Layout) (letter : Char) : List Char :=
  let upper (text : List Char) := if letter.isUpper then text.map Char.toUpper else text
  let sign := layout.sign number.isNegative
  match number with
  | infinite _ => layout.fill (sign ++ upper ['i', 'n', 'f'])
  | notNumber _ => layout.fill (sign ++ upper ['n', 'a', 'n'])
  | finite _ digits power =>
    if letter.toLower = 'a' then
      layout.fillNumber true (sign ++ upper ['0', 'x'])
        (upper (hexadecimal digits power layout.precision (layout.has '#')))
    else
      layout.fillNumber true sign (upper (Decimal.written letter.toLower (layout.precision.getD 6)
        (layout.has '#') ⟨digits <<< power.toNat, 1 <<< (-power).toNat⟩))

end Extended

end HouseStyle.Shell
