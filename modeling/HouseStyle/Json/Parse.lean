import HouseStyle.Json.Basic
import HouseStyle.Text.Digits
import HouseStyle.Text.Reader

namespace HouseStyle.Json

open Text (Reader)
open Text.Reader

def isSpace (c : Char) : Bool :=
  c = ' ' || c = '\n' || c = '\t' || c = '\r'

def spaces : Reader Unit := do
  let _ ← run isSpace

/-! ## Strings -/

inductive Piece where
  | char (c : Char)
  | unit (number : Nat)

def unit? (a b c d : Char) : Option Nat :=
  let digits := [a, b, c, d]
  if digits.all Text.isHexDigit then some (Text.digitsValue 16 digits) else none

def escaped? : Char → Option Char
  | '"' => some '"'
  | '\\' => some '\\'
  | '/' => some '/'
  | 'b' => some '\x08'
  | 'f' => some '\x0c'
  | 'n' => some '\n'
  | 'r' => some '\r'
  | 't' => some '\t'
  | _ => none

def prepend (piece : Piece) (read : Option (List Piece × List Char)) :
    Option (List Piece × List Char) :=
  read.map fun (pieces, rest) => (piece :: pieces, rest)

def pieces : Reader (List Piece)
  | [] => none
  | '"' :: rest => some ([], rest)
  | '\\' :: 'u' :: a :: b :: c :: d :: rest =>
    (unit? a b c d).bind fun number => prepend (.unit number) (pieces rest)
  | '\\' :: letter :: rest => (escaped? letter).bind fun c => prepend (.char c) (pieces rest)
  | c :: rest => if c.toNat < 0x20 then none else prepend (.char c) (pieces rest)

def isHighSurrogate (number : Nat) : Bool :=
  0xD800 ≤ number && number < 0xDC00

def isLowSurrogate (number : Nat) : Bool :=
  0xDC00 ≤ number && number < 0xE000

/-- The text of the pieces. Two units that make a surrogate pair stand for one character, and a unit
of such a pair by itself for none. -/
def text? : List Piece → Option (List Char)
  | [] => some []
  | .char c :: rest => (text? rest).map (c :: ·)
  | .unit high :: .unit low :: rest =>
    if isHighSurrogate high && isLowSurrogate low then
      (text? rest).map (Char.ofNat (0x10000 + (high - 0xD800) * 0x400 + (low - 0xDC00)) :: ·)
    else if isHighSurrogate high || isLowSurrogate high then none
    else (text? (.unit low :: rest)).map (Char.ofNat high :: ·)
  | .unit single :: rest =>
    if isHighSurrogate single || isLowSurrogate single then none
    else (text? rest).map (Char.ofNat single :: ·)

def quotedText : Reader (Option String) := do
  char '"'
  pure ((text? (← pieces)).map String.ofList)

/-! ## Numbers -/

def digits1 : Reader (List Char) :=
  run1 Char.isDigit

def wholeDigits : Reader (List Char) := do
  let digits ← digits1
  if digits.head? = some '0' && digits ≠ ['0'] then failure else pure digits

def fractionPart : Reader (List Char) := do
  char '.'
  pure ('.' :: (← digits1))

def exponentPart : Reader (List Char) := do
  let mark ← satisfy fun c => c = 'e' || c = 'E'
  let sign ← maybe (satisfy fun c => c = '+' || c = '-')
  pure (mark :: sign.toList ++ (← digits1))

def partAt (starts : Char → Bool) (part : Reader (List Char)) : Reader (List Char) := do
  if (← peek).any starts then part else pure []

def numeral : Reader Json := do
  let sign ← run (· = '-')
  let whole ← wholeDigits
  let fraction ← partAt (· = '.') fractionPart
  let exponent ← partAt (fun c => c = 'e' || c = 'E') exponentPart
  match sign, fraction ++ exponent with
  | [], [] => pure (.natural (Text.digitsValue 10 whole))
  | [], _ | ['-'], _ => pure (.number (sign ++ whole ++ fraction ++ exponent))
  | _, _ => failure

/-! ## Values -/

def arrayOf (item : Reader Json) : Reader Json := do
  char '['
  spaces
  if (← peek) = some ']' then
    char ']'
    pure (.array [])
  else
    let items ← separated (char ',') (do spaces; let item ← item; spaces; pure item)
    char ']'
    pure (.array items)

def memberOf (value : Reader Json) : Reader (Option String × Json) := do
  spaces
  let key ← quotedText
  spaces
  char ':'
  spaces
  let value ← value
  spaces
  pure (key, value)

def objectOf (value : Reader Json) : Reader Json := do
  char '\x7b'
  spaces
  if (← peek) = some '\x7d' then
    char '\x7d'
    pure (.object [])
  else
    let members ← separated (char ',') (memberOf value)
    char '\x7d'
    pure (.object members)

def valueTo : Nat → Reader Json
  | 0 => failure
  | depth + 1 => do
    match (← peek) with
    | some '"' => pure (.string (← quotedText))
    | some '[' => arrayOf (valueTo depth)
    | some '\x7b' => objectOf (valueTo depth)
    | some 'n' => do literal ['n', 'u', 'l', 'l']; pure .null
    | some 't' => do literal ['t', 'r', 'u', 'e']; pure (.boolean true)
    | some 'f' => do literal ['f', 'a', 'l', 's', 'e']; pure (.boolean false)
    | _ => numeral

/-- The value that a text stands for. No value is nested deeper than its text is long. -/
def parse (text : List Char) : Option Json :=
  Reader.all (do spaces; let value ← valueTo text.length; spaces; pure value) text

end HouseStyle.Json
