import HouseStyle.Shell.Utility.Files

namespace HouseStyle.Shell.Exec

abbrev Testing := ExceptT (List Char) (StateT (List (List Char)) Exec)

namespace Testing

def comparisons : List String :=
  ["=", "==", "!=", "-nt", "-ot", "-ef", "-eq", "-ne", "-lt", "-le", "-gt", "-ge"]

def isComparison (word : List Char) : Bool :=
  comparisons.contains (String.ofList word)

def questions : List Char :=
  "bcdefghkLnNOGprsStuwxz".toList

def isQuestion : List Char → Bool
  | ['-', letter] => questions.contains letter
  | _ => false

def number? (word : List Char) : Option Int :=
  let isBlank (c : Char) : Bool := c = ' ' || c = '\t' || c = '\n'
  let start := word.dropWhile isBlank
  let (negative, digits) := match start with
    | '-' :: rest => (true, rest)
    | '+' :: rest => (false, rest)
    | rest => (false, rest)
  let whole := digits.takeWhile Char.isDigit
  let value : Int := Text.digitsValue 10 whole
  if whole = [] || !(digits.drop whole.length).all isBlank then none
  else some (if negative then 0 - value else value)

def numberOf (word : List Char) : Testing Int := do
  match number? word with
  | some value => pure value
  | none => throw ("invalid integer ".toList ++ quoted word)

def missing {α : Type} (words : List (List Char)) : Testing α :=
  throw ("missing argument after ".toList ++ quoted (words.getLast?.getD []))

def ask (letter : Char) (word : List Char) : Testing Bool := do
  match letter with
  | 'z' => pure (word = [])
  | 'n' => pure (word ≠ [])
  | 't' => do
    let _ ← numberOf word
    pure false
  | 'N' => pure false
  | letter => do pure ((← Exec.facts).ask letter word)

def compare (left operator right : List Char) : Testing Bool := do
  let facts ← Exec.facts
  let isThere (word : List Char) : Bool := facts.ask 'e' word
  let numbers (holds : Int → Int → Bool) : Testing Bool := do
    let left ← numberOf left
    let right ← numberOf right
    pure (holds left right)
  match String.ofList operator with
  | "=" | "==" => pure (left = right)
  | "!=" => pure (left ≠ right)
  | "-nt" => pure (isThere left && (!isThere right || facts.isNewer left right))
  | "-ot" => pure (isThere right && (!isThere left || facts.isNewer right left))
  | "-ef" => pure (facts.isSame left right)
  | "-eq" => numbers fun left right => left = right
  | "-ne" => numbers fun left right => left ≠ right
  | "-lt" => numbers fun left right => left < right
  | "-le" => numbers fun left right => left ≤ right
  | "-gt" => numbers fun left right => left > right
  | _ => numbers fun left right => left ≥ right

def drop (count : Nat) : Testing Unit :=
  modify (·.drop count)

/-- The question or the comparison of two or three words at the start, in which a length can stand
for a number. -/
def comparison (all : List (List Char)) : Testing Bool := do
  match (← get) with
  | ['-', 'l'] :: word :: operator :: right :: _ =>
    if isComparison operator then do
      drop 4
      compare (decimal word.length) operator right
    else missing all
  | left :: operator :: ['-', 'l'] :: word :: _ => do
    drop 4
    compare left operator (decimal word.length)
  | left :: operator :: right :: _ => do
    drop 3
    compare left operator right
  | _ => missing all

mutual

def byCount (all : List (List Char)) : Nat → Nat → Testing Bool
  | 0, _ => pure false
  | fuel + 1, count => do
    let words ← get
    match count, words with
    | 1, word :: _ => do
      drop 1
      pure (word ≠ [])
    | 2, ['!'] :: word :: _ => do
      drop 2
      pure (word = [])
    | 2, operator :: word :: _ =>
      match operator with
      | ['-', letter] =>
        if isQuestion operator then do
          drop 2
          ask letter word
        else throw (quoted operator ++ ": unary operator expected".toList)
      | _ => missing (words.take 2)
    | 3, left :: operator :: right :: _ =>
      if isComparison operator then do
        drop 3
        compare left operator right
      else if left = ['!'] then do
        drop 1
        pure (!(← byCount all fuel 2))
      else if left = ['('] && right = [')'] then do
        drop 3
        pure (operator ≠ [])
      else if operator = "-a".toList || operator = "-o".toList then disjunction all fuel
      else throw (quoted operator ++ ": binary operator expected".toList)
    | 4, first :: _ :: _ :: last :: _ =>
      if first = ['!'] then do
        drop 1
        pure (!(← byCount all fuel 3))
      else if first = ['('] && last = [')'] then do
        drop 1
        let holds ← byCount all fuel 2
        drop 1
        pure holds
      else disjunction all fuel
    | _, _ => disjunction all fuel

def disjunction (all : List (List Char)) : Nat → Testing Bool
  | 0 => pure false
  | fuel + 1 => do
    let holds ← conjunction all fuel
    match (← get) with
    | ['-', 'o'] :: _ => do
      drop 1
      let more ← disjunction all fuel
      pure (holds || more)
    | _ => pure holds

def conjunction (all : List (List Char)) : Nat → Testing Bool
  | 0 => pure false
  | fuel + 1 => do
    let holds ← term all fuel
    match (← get) with
    | ['-', 'a'] :: _ => do
      drop 1
      let more ← conjunction all fuel
      pure (holds && more)
    | _ => pure holds

def term (all : List (List Char)) : Nat → Testing Bool
  | 0 => pure false
  | fuel + 1 => do
    match (← get) with
    | [] => missing all
    | ['!'] :: rest => do
      if rest = [] then missing all
      else do
        drop 1
        pure (!(← term all fuel))
    | ['('] :: rest => do
      if rest = [] then missing all
      else do
        drop 1
        let inside := (rest.tail.takeWhile (· ≠ [')'])).length + 1
        let holds ← byCount all fuel (if inside ≤ 4 then inside else rest.length)
        match (← get) with
        | [] => throw "')' expected".toList
        | word :: _ =>
          if word = [')'] then do
            drop 1
            pure holds
          else throw ("')' expected, found ".toList ++ quoted word)
    | word :: rest =>
      if (rest.length ≥ 3 && word = "-l".toList && (rest[1]?).any isComparison) ||
          (rest.length ≥ 2 && rest.head?.any isComparison) then comparison all
      else match word with
        | ['-', letter] =>
          if !isQuestion word then throw (quoted word ++ ": unary operator expected".toList)
          else match rest with
            | [] => missing all
            | operand :: _ => do
              drop 2
              ask letter operand
        | word => do
          drop 1
          pure (word ≠ [])

end

def decide (words : List (List Char)) : Testing Bool := do
  if words = [] then pure false
  else do
    set words
    let holds ← byCount words (4 * words.length + 8) words.length
    match (← get) with
    | [] => pure holds
    | word :: _ => throw ("extra argument ".toList ++ quoted word)

end Testing

def testWords (words : List (List Char)) : Exec Nat := do
  let (result, _) ← (Testing.decide words).run.run []
  match result with
  | .ok holds => pure (if holds then 0 else 1)
  | .error message => do
    programError message
    pure 2

def testBracketed (words : List (List Char)) : Exec Nat := do
  if words.getLast? = some [']'] then testWords words.dropLast
  else do
    programError "missing ']'".toList
    pure 2

end HouseStyle.Shell.Exec
