import HouseStyle.Shell.Printing

namespace HouseStyle.Shell.Order

def natural (left right : Nat) : Ordering :=
  if left < right then .lt else if right < left then .gt else .eq

def integer (left right : Int) : Ordering :=
  if left < right then .lt else if right < left then .gt else .eq

def text : List Char → List Char → Ordering
  | [], [] => .eq
  | [], _ :: _ => .lt
  | _ :: _, [] => .gt
  | a :: left, b :: right => if a = b then text left right else if a < b then .lt else .gt

def isBlank (c : Char) : Bool :=
  c = ' ' || c = '\t' || c = '\n'

/-! ## Numbers -/

structure Scaled where
  digits : Int
  power : Int

def Scaled.compare (left right : Scaled) : Ordering :=
  let least := if left.power < right.power then left.power else right.power
  let value (number : Scaled) : Int :=
    number.digits * (Nat.pow 10 (number.power - least).toNat : Nat)
  integer (value left) (value right)

def leadingNumber (text : List Char) : Scaled :=
  let text := text.dropWhile isBlank
  let (negative, digits) := match text with
    | '-' :: digits => (true, digits)
    | digits => (false, digits)
  let whole := digits.takeWhile Char.isDigit
  let rest := digits.drop whole.length
  let places := if rest.head? = some '.' then rest.tail.takeWhile Char.isDigit else []
  let size : Int := Text.digitsValue 10 (whole ++ places)
  { digits := if negative then -size else size, power := -(places.length : Int) }

inductive General where
  | nothing
  | notNumber
  | leastNumber
  | number (value : Scaled)
  | greatestNumber

namespace General

def rank : General → Nat
  | nothing => 0
  | notNumber => 1
  | leastNumber => 2
  | number _ => 3
  | greatestNumber => 4

def maxPower : Int := 4932

def ofText (text : List Char) : General :=
  let (negative, start) := Arithmetic.signOf (text.dropWhile Arithmetic.isBlank)
  let lower := start.map Char.toLower
  let greatest := if negative then leastNumber else greatestNumber
  if "inf".toList.isPrefixOf lower then greatest
  else if "nan".toList.isPrefixOf lower then notNumber
  else match scaledDigits? start with
    | none => nothing
    | some (digits, power, _) =>
      let magnitude := power + ((toString digits).length : Int)
      if digits = 0 || magnitude < -maxPower - 20 then number { digits := 0, power := 0 }
      else if maxPower < magnitude - 1 then greatest
      else number { digits := if negative then -(digits : Int) else digits, power }

def compare : General → General → Ordering
  | number left, number right => left.compare right
  | left, right => natural left.rank right.rank

end General

/-- The power for which the unit behind a number stands. It is negative if the number is, and zero if
the number is. -/
def unitPower (text : List Char) : Int :=
  let (negative, digits) := match text with
    | '-' :: digits => (true, digits)
    | digits => (false, digits)
  let whole := digits.takeWhile Char.isDigit
  let rest := digits.drop whole.length
  let places := if rest.head? = some '.' then rest.tail.takeWhile Char.isDigit else []
  let rest := if rest.head? = some '.' then rest.drop (places.length + 1) else rest
  let power : Int := match rest with
    | unit :: _ => (([('K', 1), ('k', 1), ('M', 2), ('G', 3), ('T', 4), ('P', 5), ('E', 6), ('Z', 7),
      ('Y', 8)] : List (Char × Nat)).lookup unit).getD 0
    | [] => 0
  if (whole ++ places).all (· = '0') then 0 else if negative then -power else power

def monthNumber (text : List Char) : Nat :=
  let start := ((text.dropWhile isBlank).take 3).map Char.toUpper
  let names := ["JAN", "FEB", "MAR", "APR", "MAY", "JUN", "JUL", "AUG", "SEP", "OCT", "NOV", "DEC"]
  let before := names.takeWhile fun name => name.toList ≠ start
  if before.length = names.length then 0 else before.length + 1

/-! ## Versions -/

def versionRank : Option Char → Int
  | none => -1
  | some c =>
    if c.isDigit then 0 else if c.isAlpha then c.toNat else if c = '~' then -2
    else c.toNat + 256

def versionWords : Nat → List Char → List Char → Except Ordering (List Char × List Char)
  | 0, left, right => .ok (left, right)
  | steps + 1, left, right =>
    if left.head?.any (!·.isDigit) || right.head?.any (!·.isDigit) then
      match integer (versionRank left.head?) (versionRank right.head?) with
      | .eq => versionWords steps left.tail right.tail
      | order => .error order
    else .ok (left, right)

def versionParts : Nat → List Char → List Char → Ordering
  | 0, _, _ => .eq
  | _ + 1, [], [] => .eq
  | steps + 1, left, right =>
    match versionWords (left.length + right.length + 1) left right with
    | .error order => order
    | .ok (left, right) =>
      let leftDigits := left.takeWhile Char.isDigit
      let rightDigits := right.takeWhile Char.isDigit
      match natural (Text.digitsValue 10 leftDigits) (Text.digitsValue 10 rightDigits) with
      | .eq => versionParts steps (left.drop leftDigits.length) (right.drop rightDigits.length)
      | order => order

def isEndings : Nat → List Char → Bool
  | 0, _ => false
  | _ + 1, [] => true
  | steps + 1, text =>
    match text with
    | '.' :: c :: rest =>
      (c.isAlpha || c = '~') && isEndings steps (rest.dropWhile fun c => c.isAlphanum || c = '~')
    | _ => false

def withoutEndings (name : List Char) : List Char :=
  let lengths := (List.range name.length).map (· + 1)
  match lengths.find? fun length => isEndings (name.length + 1) (name.drop length) with
  | some length => name.take length
  | none => name

/-- The order of versions. Names that start with a point come first, and endings of files only
count if nothing else does. -/
def version (left right : List Char) : Ordering :=
  let rank (name : List Char) : Nat :=
    if name = [] then 0 else if name = ['.'] then 1 else if name = ['.', '.'] then 2
    else if name.head? = some '.' then 3 else 4
  match natural (rank left) (rank right) with
  | .eq =>
    let steps := left.length + right.length + 1
    (versionParts steps (withoutEndings left) (withoutEndings right)).then
      (versionParts steps left right)
  | order => order

end HouseStyle.Shell.Order
