import HouseStyle.Shell.Command
import HouseStyle.Text.Digits

namespace HouseStyle.Shell.Arithmetic

inductive BinaryOperator where
  | multiply
  | divide
  | remainder
  | add
  | subtract
  | shiftLeft
  | shiftRight
  | less
  | lessEqual
  | greater
  | greaterEqual
  | equal
  | notEqual
  | bitAnd
  | bitXor
  | bitOr
  deriving DecidableEq, Repr

inductive UnaryOperator where
  | negative
  | not
  | complement
  deriving DecidableEq, Repr

inductive Symbol where
  | number (value : Int)
  | name (name : List Char)
  | binary (operator : BinaryOperator)
  | assign (operator : Option BinaryOperator)
  | andAlso
  | orElse
  | not
  | complement
  | question
  | colon
  | openParenthesis
  | closeParenthesis
  | unknown
  deriving DecidableEq, Repr

inductive Fault where
  | expectingPrimary
  | expectingClose
  | expectingColon
  | expectingEnd
  | divisionByZero
  deriving DecidableEq, Repr

def Fault.message : Fault → String
  | expectingPrimary => "expecting primary"
  | expectingClose => "expecting ')'"
  | expectingColon => "expecting ':'"
  | expectingEnd => "expecting EOF"
  | divisionByZero => "division by zero"

/-- An expression is carried out while it is read, so what stands before a part that cannot be read
has its effect. -/
inductive Expression where
  | number (value : Int)
  | valueOf (name : List Char)
  | unary (operator : UnaryOperator) (operand : Expression)
  | binary (operator : BinaryOperator) (left right : Expression)
  | andAlso (left right : Expression)
  | orElse (left right : Expression)
  | conditional (test yes no : Expression)
  | assign (name : List Char) (operator : Option BinaryOperator) (value : Expression)
  | faulty (fault : Fault)
  | broken (first : Expression) (fault : Fault)
  deriving Repr

def Expression.fault? : Expression → Option Fault
  | number _ | valueOf _ => none
  | unary _ operand => operand.fault?
  | binary _ left right | andAlso left right | orElse left right => left.fault?.or right.fault?
  | conditional test yes no => (test.fault?.or yes.fault?).or no.fault?
  | assign _ _ value => value.fault?
  | faulty fault => some fault
  | broken first fault => first.fault?.or (some fault)

/-! ## Numbers of 64 bits -/

def modulus : Int := 0x10000000000000000

def largest : Int := 0x7FFFFFFFFFFFFFFF

def wrap (n : Int) : Int :=
  let low := n % modulus
  if low ≤ largest then low else low - modulus

def bits (n : Int) : Nat :=
  (n % modulus).toNat

def clamp (n : Int) : Int :=
  if largest < n then largest else if n < -largest - 1 then -largest - 1 else n

def ofBool (flag : Bool) : Int :=
  if flag then 1 else 0

def BinaryOperator.apply (left right : Int) : BinaryOperator → Except Fault Int
  | multiply => .ok (wrap (left * right))
  | divide => if right = 0 then .error .divisionByZero else .ok (wrap (left.tdiv right))
  | remainder => if right = 0 then .error .divisionByZero else .ok (wrap (left.tmod right))
  | add => .ok (wrap (left + right))
  | subtract => .ok (wrap (left - right))
  | shiftLeft => .ok (wrap (bits left <<< (bits right % 64)))
  | shiftRight => .ok (left >>> (bits right % 64))
  | less => .ok (ofBool (left < right))
  | lessEqual => .ok (ofBool (left ≤ right))
  | greater => .ok (ofBool (right < left))
  | greaterEqual => .ok (ofBool (right ≤ left))
  | equal => .ok (ofBool (left = right))
  | notEqual => .ok (ofBool (left ≠ right))
  | bitAnd => .ok (wrap (bits left &&& bits right))
  | bitXor => .ok (wrap (bits left ^^^ bits right))
  | bitOr => .ok (wrap (bits left ||| bits right))

def UnaryOperator.apply (operand : Int) : UnaryOperator → Int
  | negative => wrap (-operand)
  | not => ofBool (operand = 0)
  | complement => wrap (-operand - 1)

def BinaryOperator.level : BinaryOperator → Nat
  | multiply | divide | remainder => 0
  | add | subtract => 1
  | shiftLeft | shiftRight => 2
  | less | lessEqual | greater | greaterEqual => 3
  | equal | notEqual => 4
  | bitAnd => 5
  | bitXor => 6
  | bitOr => 7

def lastLevel : Nat := 7

/-! ## Reading -/

def isOctal (c : Char) : Bool :=
  '0' ≤ c && c ≤ '7'

def number : List Char → Int × List Char
  | '0' :: x :: digit :: rest =>
    if (x = 'x' || x = 'X') && Text.isHexDigit digit then
      let digits := (digit :: rest).takeWhile Text.isHexDigit
      (clamp (Text.digitsValue 16 digits), (digit :: rest).drop digits.length)
    else
      let text := '0' :: x :: digit :: rest
      let digits := text.takeWhile isOctal
      (clamp (Text.digitsValue 8 digits), text.drop digits.length)
  | '0' :: rest =>
    let digits := rest.takeWhile isOctal
    (clamp (Text.digitsValue 8 digits), rest.drop digits.length)
  | text =>
    let digits := text.takeWhile Char.isDigit
    (clamp (Text.digitsValue 10 digits), text.drop digits.length)

def mark? : List Char → Option (Symbol × List Char)
  | '<' :: '<' :: '=' :: rest => some (.assign (some .shiftLeft), rest)
  | '>' :: '>' :: '=' :: rest => some (.assign (some .shiftRight), rest)
  | '=' :: '=' :: rest => some (.binary .equal, rest)
  | '!' :: '=' :: rest => some (.binary .notEqual, rest)
  | '<' :: '=' :: rest => some (.binary .lessEqual, rest)
  | '>' :: '=' :: rest => some (.binary .greaterEqual, rest)
  | '&' :: '&' :: rest => some (.andAlso, rest)
  | '|' :: '|' :: rest => some (.orElse, rest)
  | '<' :: '<' :: rest => some (.binary .shiftLeft, rest)
  | '>' :: '>' :: rest => some (.binary .shiftRight, rest)
  | '*' :: '=' :: rest => some (.assign (some .multiply), rest)
  | '/' :: '=' :: rest => some (.assign (some .divide), rest)
  | '%' :: '=' :: rest => some (.assign (some .remainder), rest)
  | '+' :: '=' :: rest => some (.assign (some .add), rest)
  | '-' :: '=' :: rest => some (.assign (some .subtract), rest)
  | '&' :: '=' :: rest => some (.assign (some .bitAnd), rest)
  | '^' :: '=' :: rest => some (.assign (some .bitXor), rest)
  | '|' :: '=' :: rest => some (.assign (some .bitOr), rest)
  | '=' :: rest => some (.assign none, rest)
  | '<' :: rest => some (.binary .less, rest)
  | '>' :: rest => some (.binary .greater, rest)
  | '+' :: rest => some (.binary .add, rest)
  | '-' :: rest => some (.binary .subtract, rest)
  | '*' :: rest => some (.binary .multiply, rest)
  | '/' :: rest => some (.binary .divide, rest)
  | '%' :: rest => some (.binary .remainder, rest)
  | '&' :: rest => some (.binary .bitAnd, rest)
  | '^' :: rest => some (.binary .bitXor, rest)
  | '|' :: rest => some (.binary .bitOr, rest)
  | '!' :: rest => some (.not, rest)
  | '~' :: rest => some (.complement, rest)
  | '?' :: rest => some (.question, rest)
  | ':' :: rest => some (.colon, rest)
  | '(' :: rest => some (.openParenthesis, rest)
  | ')' :: rest => some (.closeParenthesis, rest)
  | _ => none

def symbols : Nat → List Char → List Symbol
  | 0, _ => []
  | _ + 1, [] => []
  | steps + 1, c :: rest =>
    let text := c :: rest
    if c ∈ [' ', '\t', '\n'] then symbols steps rest
    else if c.isDigit then
      let (value, rest) := number text
      .number value :: symbols steps rest
    else if isNameStart c then
      let name := text.takeWhile isNameChar
      .name name :: symbols steps (text.drop name.length)
    else match mark? text with
      | some (symbol, rest) => symbol :: symbols steps rest
      | none => [.unknown]

abbrev Reader := StateM (List Symbol)

def fail (expression : Expression) : Reader Expression := do
  set ([] : List Symbol)
  pure expression

def peek : Reader (Option Symbol) := do
  pure (← get).head?

def skip : Reader Unit :=
  modify List.tail

mutual

def assignment : Nat → Reader Expression
  | 0 => fail (.faulty .expectingPrimary)
  | fuel + 1 => do
    match (← get) with
    | .name name :: .assign operator :: rest => do
      set rest
      pure (.assign name operator (← assignment fuel))
    | _ => conditional fuel

def conditional : Nat → Reader Expression
  | 0 => fail (.faulty .expectingPrimary)
  | fuel + 1 => do
    let test ← disjunction fuel
    if (← peek) = some .question then do
      skip
      let yes ← assignment fuel
      if (← peek) = some .colon then do
        skip
        pure (.conditional test yes (← conditional fuel))
      else fail (.conditional test (.broken yes .expectingColon) (.number 0))
    else pure test

def disjunction : Nat → Reader Expression
  | 0 => fail (.faulty .expectingPrimary)
  | fuel + 1 => do
    let left ← conjunction fuel
    if (← peek) = some .orElse then do
      skip
      pure (.orElse left (← disjunction fuel))
    else pure left

def conjunction : Nat → Reader Expression
  | 0 => fail (.faulty .expectingPrimary)
  | fuel + 1 => do
    let left ← operation fuel lastLevel
    if (← peek) = some .andAlso then do
      skip
      pure (.andAlso left (← conjunction fuel))
    else pure left

def operation : Nat → Nat → Reader Expression
  | 0, _ => fail (.faulty .expectingPrimary)
  | fuel + 1, level => do
    let first ← match level with
      | 0 => primary fuel
      | level + 1 => operation fuel level
    operationFrom fuel level first

def operationFrom : Nat → Nat → Expression → Reader Expression
  | 0, _, _ => fail (.faulty .expectingPrimary)
  | fuel + 1, level, left => do
    match (← peek) with
    | some (.binary operator) =>
      if operator.level = level then do
        skip
        let right ← match level with
          | 0 => primary fuel
          | level + 1 => operation fuel level
        operationFrom fuel level (.binary operator left right)
      else pure left
    | _ => pure left

def primary : Nat → Reader Expression
  | 0 => fail (.faulty .expectingPrimary)
  | fuel + 1 => do
    match (← peek) with
    | some .openParenthesis => do
      skip
      let inner ← assignment fuel
      if (← peek) = some .closeParenthesis then do
        skip
        pure inner
      else fail (.broken inner .expectingClose)
    | some (.number value) => do
      skip
      pure (.number value)
    | some (.name name) => do
      skip
      pure (.valueOf name)
    | some (.binary .add) => do
      skip
      primary fuel
    | some (.binary .subtract) => do
      skip
      pure (.unary .negative (← primary fuel))
    | some .not => do
      skip
      pure (.unary .not (← primary fuel))
    | some .complement => do
      skip
      pure (.unary .complement (← primary fuel))
    | _ => fail (.faulty .expectingPrimary)

end

def parse (text : List Char) : Expression :=
  let found := symbols (text.length + 1) text
  let (expression, rest) := (assignment (20 * (found.length + 1))).run found
  if rest = [] then expression else .broken expression .expectingEnd

/-! ## Numbers in texts -/

def isBlank (c : Char) : Bool :=
  c = ' ' || '\t' ≤ c && c ≤ '\r'

def signOf : List Char → Bool × List Char
  | '-' :: rest => (true, rest)
  | '+' :: rest => (false, rest)
  | rest => (false, rest)

def ofValue? (text : List Char) : Option Int :=
  let (negative, digits) := signOf (text.dropWhile isBlank)
  if text = [] then some 0
  else if digits.head?.any Char.isDigit then
    let (value, rest) := number digits
    if rest.all isBlank then some (if negative then -value else value) else none
  else none

def ofDecimal? (text : List Char) : Option Int :=
  let (negative, digits) := signOf (text.dropWhile isBlank)
  let taken := digits.takeWhile Char.isDigit
  let size : Int := Text.digitsValue 10 taken
  let value := if negative then -size else size
  if taken = [] || !(digits.drop taken.length).all isBlank || clamp value ≠ value then none
  else some value

end HouseStyle.Shell.Arithmetic
