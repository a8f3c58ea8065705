import HouseStyle.Binary64
import HouseStyle.Text.Digits
import HouseStyle.Text.Find
import HouseStyle.Text.Reader
import HouseStyle.Toml.Value

namespace HouseStyle.Toml

open Text (Reader)
open Text.Reader

def isSpace (c : Char) : Bool :=
  c = ' ' || c = '\t'

def spaces : Reader Unit := do
  let _ ← run isSpace

def newline : Reader Unit
  | '\n' :: rest => some ((), rest)
  | '\r' :: '\n' :: rest => some ((), rest)
  | _ => none

def isPlain (c : Char) : Bool :=
  c = '\t' || (0x20 ≤ c.toNat && c.toNat ≠ 0x7F)

/-! ## Strings -/

def charOfHex? (digits : List Char) : Option Char :=
  let number := Text.digitsValue 16 digits
  if digits.all Text.isHexDigit && number.isValidChar then some (Char.ofNat number) else none

def escaped? : Char → Option Char
  | 'b' => some '\x08'
  | 't' => some '\t'
  | 'n' => some '\n'
  | 'f' => some '\x0c'
  | 'r' => some '\r'
  | '"' => some '"'
  | '\\' => some '\\'
  | _ => none

def prepend (c : Char) (read : Option (List Char × List Char)) : Option (List Char × List Char) :=
  read.map fun (text, rest) => (c :: text, rest)

def basicBody : Reader (List Char)
  | [] => none
  | '"' :: rest => some ([], rest)
  | '\\' :: 'u' :: a :: b :: c :: d :: rest =>
    (charOfHex? [a, b, c, d]).bind fun char => prepend char (basicBody rest)
  | '\\' :: 'U' :: a :: b :: c :: d :: e :: f :: g :: h :: rest =>
    (charOfHex? [a, b, c, d, e, f, g, h]).bind fun char => prepend char (basicBody rest)
  | '\\' :: letter :: rest => (escaped? letter).bind fun char => prepend char (basicBody rest)
  | c :: rest => if isPlain c then prepend c (basicBody rest) else none

def literalBody : Reader (List Char)
  | [] => none
  | '\'' :: rest => some ([], rest)
  | c :: rest => if isPlain c then prepend c (literalBody rest) else none

/-- A run of quotes in a string on several lines: one or two belong to the string, and three end it,
after one or two more that belong to it. -/
inductive Quotes where
  | inside
  | closing (kept : Nat)
  | tooMany

def quotes (quote : Char) (afterFirst : List Char) : Quotes :=
  match (afterFirst.takeWhile (· = quote)).length with
  | 0 | 1 => .inside
  | 2 => .closing 0
  | 3 => .closing 1
  | 4 => .closing 2
  | _ => .tooMany

def endsLine (text : List Char) : Bool :=
  (newline (text.dropWhile isSpace)).isSome

/-- A string with escapes on several lines. After a backslash at the end of a line all blanks are
passed over, which is what `joining` tells. -/
def basicLines (joining : Bool) : Reader (List Char)
  | [] => none
  | '"' :: rest =>
    match quotes '"' rest with
    | .inside => prepend '"' (basicLines false rest)
    | .closing kept => some (List.replicate kept '"', rest.drop (kept + 2))
    | .tooMany => none
  | '\\' :: 'u' :: a :: b :: c :: d :: rest =>
    (charOfHex? [a, b, c, d]).bind fun char => prepend char (basicLines false rest)
  | '\\' :: 'U' :: a :: b :: c :: d :: e :: f :: g :: h :: rest =>
    (charOfHex? [a, b, c, d, e, f, g, h]).bind fun char => prepend char (basicLines false rest)
  | '\\' :: letter :: rest =>
    if endsLine (letter :: rest) then basicLines true (letter :: rest)
    else (escaped? letter).bind fun char => prepend char (basicLines false rest)
  | '\r' :: '\n' :: rest =>
    if joining then basicLines true rest else prepend '\n' (basicLines false rest)
  | '\n' :: rest =>
    if joining then basicLines true rest else prepend '\n' (basicLines false rest)
  | c :: rest =>
    if joining && isSpace c then basicLines true rest
    else if isPlain c then prepend c (basicLines false rest)
    else none

def literalLines : Reader (List Char)
  | [] => none
  | '\'' :: rest =>
    match quotes '\'' rest with
    | .inside => prepend '\'' (literalLines rest)
    | .closing kept => some (List.replicate kept '\'', rest.drop (kept + 2))
    | .tooMany => none
  | '\r' :: '\n' :: rest => prepend '\n' (literalLines rest)
  | '\n' :: rest => prepend '\n' (literalLines rest)
  | c :: rest => if isPlain c then prepend c (literalLines rest) else none

/-- A line end right after the opening quotes of a string on several lines does not belong to it. -/
def string : Reader String := do
  let text ←
    (do literal ['"', '"', '"']; let _ ← maybe newline; basicLines false) <|>
    (do literal ['\'', '\'', '\'']; let _ ← maybe newline; literalLines) <|>
    (do char '"'; basicBody) <|>
    (do char '\''; literalBody)
  pure (String.ofList text)

/-! ## Numbers -/

def digits (isDigit : Char → Bool) : Reader (List Char) := do
  let pieces := Text.splitAt '_' (← run fun c => isDigit c || c = '_')
  if pieces.any (·.isEmpty) then failure else pure pieces.flatten

def decimalValue (digits : List Char) : Nat :=
  Text.digitsValue 10 digits

def inRange (number : Int) : Reader Value :=
  if -0x8000000000000000 ≤ number && number < 0x8000000000000000 then pure (.integer number)
  else failure

def radixInteger (mark : Char) (radix : Nat) (isDigit : Char → Bool) : Reader Value := do
  literal ['0', mark]
  inRange (Text.digitsValue radix (← digits isDigit))

def sign : Reader Bool := do
  match (← maybe (satisfy fun c => c = '+' || c = '-')) with
  | some '-' => pure true
  | _ => pure false

def wholePart : Reader (List Char) := do
  let start ← get
  let taken ← digits Char.isDigit
  if start.head? = some '0' && start.takeWhile (fun c => c.isDigit || c = '_') ≠ ['0'] then failure
  else pure taken

def fraction : Reader (List Char) := do
  char '.'
  digits Char.isDigit

def exponent : Reader Int := do
  let _ ← satisfy fun c => c = 'e' || c = 'E'
  let negative ← sign
  let value := decimalValue (← digits Char.isDigit)
  pure (if negative then -value else value)

def floatOf (negative : Bool) (whole fraction : List Char) (exponent : Int) : Reader Value :=
  let bits := Binary64.ofDecimal (decimalValue (whole ++ fraction)) (exponent - fraction.length)
  if negative then pure (.float (Binary64.signBit + bits))
  else if bits = Binary64.infinity then failure
  else pure (.float bits)

def decimal : Reader Value := do
  let negative ← sign
  let whole ← wholePart
  match (← peek) with
  | some '.' =>
    let fraction ← fraction
    match (← peek) with
    | some 'e' | some 'E' => floatOf negative whole fraction (← exponent)
    | _ => floatOf negative whole fraction 0
  | some 'e' | some 'E' => floatOf negative whole [] (← exponent)
  | _ =>
    let value : Int := decimalValue whole
    inRange (if negative then -value else value)

def special : Reader Value := do
  let negative ← sign
  let bits ←
    (do literal ['i', 'n', 'f']; pure Binary64.infinity) <|>
    (do literal ['n', 'a', 'n']; pure Binary64.nan)
  pure (.float (if negative then Binary64.signBit + bits else bits))

/-! ## Dates and times -/

def numeral (width low high : Nat) : Reader Nat := fun text =>
  let taken := text.take width
  let value := decimalValue taken
  if taken.length = width && taken.all Char.isDigit && low ≤ value && value ≤ high then
    some (value, text.drop width)
  else none

def isLeap (year : Nat) : Bool :=
  year % 4 = 0 && (year % 100 ≠ 0 || year % 400 = 0)

def daysIn (year month : Nat) : Nat :=
  if month = 2 then (if isLeap year then 29 else 28)
  else if month ∈ [4, 6, 9, 11] then 30
  else 31

def date : Reader Date := do
  let year ← numeral 4 0 9999
  char '-'
  let month ← numeral 2 1 12
  char '-'
  let day ← numeral 2 1 (daysIn year month)
  pure ⟨year, month, day⟩

def secondFraction : Reader Nat := do
  char '.'
  let taken := (← run1 Char.isDigit).take 9
  pure (decimalValue (taken ++ List.replicate (9 - taken.length) '0'))

def time : Reader Time := do
  let hour ← numeral 2 0 23
  char ':'
  let minute ← numeral 2 0 59
  char ':'
  let second ← numeral 2 0 60
  match (← peek) with
  | some '.' => pure ⟨hour, minute, second, ← secondFraction⟩
  | _ => pure ⟨hour, minute, second, 0⟩

def offset : Reader Offset := do
  let mark ← satisfy fun c => c ∈ ['Z', 'z', '+', '-']
  if mark = 'Z' || mark = 'z' then pure .universal
  else
    let hours ← numeral 2 0 23
    char ':'
    let minutes ← numeral 2 0 59
    let count := 60 * hours + minutes
    pure (.minutes (if mark = '-' then -(count : Int) else count))

def datetime : Reader Datetime :=
  (do
    let date ← date
    let time ← maybe (do
      let _ ← satisfy fun c => c ∈ ['T', 't', ' ']
      time)
    match time with
    | none => pure (.date date)
    | some time => pure (.moment date time (← maybe offset))) <|>
  (do pure (.time (← time)))

def scalar : Reader Value := do
  match (← peek) with
  | some '"' | some '\'' => pure (.string (← string))
  | some 't' => do literal ['t', 'r', 'u', 'e']; pure (.boolean true)
  | some 'f' => do literal ['f', 'a', 'l', 's', 'e']; pure (.boolean false)
  | _ =>
    (do pure (.datetime (← datetime))) <|> radixInteger 'x' 16 Text.isHexDigit <|>
      radixInteger 'o' 8 (fun c => '0' ≤ c && c ≤ '7') <|>
      radixInteger 'b' 2 (fun c => c = '0' || c = '1') <|> decimal <|> special

end HouseStyle.Toml
