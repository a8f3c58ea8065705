import HouseStyle.Shell.Regex.Plan
import HouseStyle.Shell.Regex.Spelling
import HouseStyle.Shell.Utility.Basic

namespace HouseStyle.Shell

namespace Calculation

inductive Value where
  | number (value : Int)
  | word (text : List Char)

inductive Fault where
  | missingAfter (word : List Char)
  | unexpected (word : List Char)
  | unexpectedClose
  | missingClose (word : List Char)
  | otherThanClose (word : List Char)
  | notInteger
  | divisionByZero
  | badExpression (reason : String)

def Fault.message : Fault → List Char
  | missingAfter word => "syntax error: missing argument after ".toList ++ Quotation.always word
  | unexpected word => "syntax error: unexpected argument ".toList ++ Quotation.always word
  | unexpectedClose => "syntax error: unexpected ')'".toList
  | missingClose word => "syntax error: expecting ')' after ".toList ++ Quotation.always word
  | otherThanClose word =>
    "syntax error: expecting ')' instead of ".toList ++ Quotation.always word
  | notInteger => "non-integer argument".toList
  | divisionByZero => "division by zero".toList
  | badExpression reason => reason.toList

structure Words where
  rest : List (List Char)
  last : List Char := []

abbrev Calc := StateT Words (Except Fault)

def fail {α : Type} (fault : Fault) : Calc α := fun _ => .error fault

/-! ## Values -/

def integer? (text : List Char) : Option Int :=
  let (negative, digits) := match text with
    | '-' :: digits => (true, digits)
    | digits => (false, digits)
  let size : Int := Text.digitsValue 10 digits
  if digits = [] || !digits.all Char.isDigit then none
  else some (if negative then -size else size)

def Value.integer? : Value → Option Int
  | number value => some value
  | word text => Calculation.integer? text

def Value.text : Value → List Char
  | number value => (toString value).toList
  | word text => text

def Value.isNothing : Value → Bool
  | number value => value = 0
  | word [] => true
  | word text =>
    let digits := if text.head? = some '-' then text.tail else text
    digits ≠ [] && digits.all (· = '0')

def truth (flag : Bool) : Value :=
  .number (if flag then 1 else 0)

def integerOf (value : Value) : Calc Int :=
  match value.integer? with
  | some number => pure number
  | none => fail .notInteger

def compare (left right : Value) : Ordering :=
  match left.integer?, right.integer? with
  | some left, some right => if left < right then .lt else if right < left then .gt else .eq
  | _, _ =>
    let (left, right) := (left.text, right.text)
    if textBefore left right then .lt else if left = right then .eq else .gt

/-- Match the start of a text: the length of what an expression describes, or what its first group
stands for. -/
def matchStart (text pattern : List Char) : Calc Value :=
  match Regex.ofText { emptyRanges := true } pattern with
  | .error fault => fail (.badExpression fault.message)
  | .ok regex =>
    let plan := regex.plan false true false
    let found := plan.at? true (fun _ => true) [] text
    if plan.groups > 0 then
      pure (.word ((found.bind fun part => part.groups.lookup 1).getD []))
    else pure (.number ((found.map fun part => part.text.length).getD 0 : Nat))

def part (text : List Char) (position length : Option Int) : List Char :=
  match position, length with
  | some position, some length =>
    if position < 1 || length < 1 then [] else (text.drop (position - 1).toNat).take length.toNat
  | _, _ => []

def indexOf (text chars : List Char) : Nat :=
  let before := text.takeWhile (!chars.contains ·)
  if before.length = text.length then 0 else before.length + 1

/-! ## Reading and carrying out -/

def accept? (words : List String) : Calc (Option String) := do
  let state ← get
  match state.rest with
  | word :: rest =>
    match words.find? (·.toList = word) with
    | some found => do
      set { state with rest, last := word }
      pure (some found)
    | none => pure none
  | [] => pure none

def next : Calc (List Char) := do
  let state ← get
  match state.rest with
  | word :: rest => do
    set { rest, last := word : Words }
    pure word
  | [] => fail (.missingAfter state.last)

def combine (operator : String) (left right : Value) : Calc Value := do
  match operator with
  | "|" =>
    pure (if !left.isNothing then left else if right.isNothing then .number 0 else right)
  | "&" => pure (if left.isNothing || right.isNothing then .number 0 else left)
  | "<" => pure (truth (compare left right = .lt))
  | "<=" => pure (truth (compare left right ≠ .gt))
  | "=" | "==" => pure (truth (compare left right = .eq))
  | "!=" => pure (truth (compare left right ≠ .eq))
  | ">=" => pure (truth (compare left right ≠ .lt))
  | ">" => pure (truth (compare left right = .gt))
  | ":" => matchStart left.text right.text
  | _ => do
    let left ← integerOf left
    let right ← integerOf right
    match operator with
    | "+" => pure (.number (left + right))
    | "-" => pure (.number (left - right))
    | "*" => pure (.number (left * right))
    | _ => do
      if right = 0 then fail .divisionByZero
      else pure (.number (if operator = "/" then left.tdiv right else left.tmod right))

def operators : List (List String) :=
  [["|"], ["&"], ["<", "<=", "=", "==", "!=", ">=", ">"], ["+", "-"], ["*", "/", "%"], [":"]]

mutual

/-- Values joined by operators of a level, or of those that bind more tightly. What is not needed is
read, but not carried out. -/
def level (needed : Bool) : Nat → List (List String) → Calc Value
  | 0, _ => fail .unexpectedClose
  | fuel + 1, [] => single needed fuel
  | fuel + 1, operators :: tighter => do
    let left ← level needed fuel tighter
    levelFrom needed fuel operators tighter left

def levelFrom (needed : Bool) : Nat → List String → List (List String) → Value → Calc Value
  | 0, _, _, _ => fail .unexpectedClose
  | fuel + 1, operators, tighter, left => do
    match (← accept? operators) with
    | none => pure left
    | some operator => do
      let needed' := needed && match operator with
        | "|" => left.isNothing
        | "&" => !left.isNothing
        | _ => true
      let right ← level needed' fuel tighter
      let isChoice := operator = "|" || operator = "&"
      let value ← if needed || isChoice then combine operator left right else pure left
      levelFrom needed fuel operators tighter value

def single (needed : Bool) : Nat → Calc Value
  | 0 => fail .unexpectedClose
  | fuel + 1 => do
    match (← accept? ["+", "length", "match", "index", "substr", "(", ")"]) with
    | some "+" => do
      pure (.word (← next))
    | some "length" => do
      let value ← single needed fuel
      pure (.number (value.text.length : Nat))
    | some "match" => do
      let text ← single needed fuel
      let pattern ← single needed fuel
      if needed then matchStart text.text pattern.text else pure text
    | some "index" => do
      let text ← single needed fuel
      let chars ← single needed fuel
      pure (.number (indexOf text.text chars.text : Nat))
    | some "substr" => do
      let text ← single needed fuel
      let position ← single needed fuel
      let length ← single needed fuel
      pure (.word (part text.text position.integer? length.integer?))
    | some "(" => do
      let value ← level needed fuel operators
      let state ← get
      match state.rest with
      | [] => fail (.missingClose state.last)
      | word :: rest =>
        if word = [')'] then do
          set { rest, last := word : Words }
          pure value
        else fail (.otherThanClose word)
    | some _ => fail .unexpectedClose
    | none => do
      pure (.word (← next))

end

def evaluate (words : List (List Char)) : Except Fault Value := do
  let (value, state) ← (level true (16 * (words.length + 2)) operators).run { rest := words }
  match state.rest with
  | [] => pure value
  | word :: _ => .error (.unexpected word)

end Calculation

namespace Exec

def expr (words : List (List Char)) : Exec Nat := do
  let words := if words.head? = some ['-', '-'] then words.tail else words
  if words = [] then
    let _ ← missingOperand
    pure 2
  else match Calculation.evaluate words with
    | .error fault => do
      programError fault.message
      pure 2
    | .ok value => do
      put (value.text ++ ['\n'])
      pure (if value.isNothing then 1 else 0)

end Exec

end HouseStyle.Shell
