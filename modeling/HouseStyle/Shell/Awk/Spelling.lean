import HouseStyle.Shell.Awk.Token
import HouseStyle.Shell.Regex.Plan

namespace HouseStyle.Shell.Awk.Spelling

inductive Fault where
  | missingParenthesis
  | badClass
  | missingOperand
  | repeatedStart
  deriving DecidableEq, Repr

def Fault.message : Fault → String
  | missingParenthesis => "missing ')'"
  | badClass => "bad class -- [], [^] or ["
  | missingOperand => "missing operand"
  | repeatedStart => "syntax error ^* or ^+"

abbrev Parse := StateT (List Char) (Except Fault)

def escape : List Char → Char × List Char
  | [] => ('\\', [])
  | c :: rest =>
    match [('n', '\n'), ('t', '\t'), ('f', '\x0c'), ('b', '\x08'), ('r', '\r'), ('a', '\x07'),
        ('v', '\x0b')].lookup c with
    | some meant => (meant, rest)
    | none =>
      if Arithmetic.isOctal c then
        let digits := ((c :: rest).take 3).takeWhile Arithmetic.isOctal
        (Char.ofNat (Text.digitsValue 8 digits % 256), (c :: rest).drop digits.length)
      else
        let digits := (rest.take 2).takeWhile isHexadecimal
        if c = 'x' && digits ≠ [] then
          (Char.ofNat (Text.digitsValue 16 digits), rest.drop digits.length)
        else (c, rest)

/-- The ranges between brackets, and what follows them, in at most so many steps. `atStart` tells
that a closing bracket stands for itself. -/
def ranges : Nat → Bool → List Char → Except Fault (List (Char × Char) × List Char)
  | 0, _, _ => .error .badClass
  | _ + 1, _, [] => .error .badClass
  | steps + 1, atStart, c :: rest =>
    if c = ']' && !atStart then .ok ([], rest)
    else if c = '[' && rest.head? = some ':' then
      let name := (rest.drop 1).takeWhile Char.isAlpha
      let behind := rest.drop (name.length + 1)
      if behind.take 2 = [':', ']'] then
        match CharSet.classRanges? name with
        | some found => do
          let (more, rest) ← ranges steps false (behind.drop 2)
          pure (found ++ more, rest)
        | none => .error .badClass
      else do
        let (more, rest) ← ranges steps false rest
        pure ((c, c) :: more, rest)
    else do
      let (low, rest) := if c = '\\' then escape rest else (c, rest)
      match rest with
      | '-' :: next :: behind =>
        if next = ']' then do
          let (more, rest) ← ranges steps false rest
          pure ((low, low) :: more, rest)
        else do
          let (high, rest) := if next = '\\' then escape behind else (next, behind)
          let (more, rest) ← ranges steps false rest
          pure ((low, high) :: more, rest)
      | rest => do
        let (more, rest) ← ranges steps false rest
        pure ((low, low) :: more, rest)

def bracketSet : Parse CharSet := do
  let text ← get
  let negated := text.head? = some '^'
  let (found, rest) ← ranges (text.length + 1) true (if negated then text.tail else text)
  set rest
  pure { ranges := found, negated }

def repetitions : Nat → Regex → Parse Regex
  | 0, body => pure body
  | steps + 1, body => do
    let again (least : Nat) (most : Option Nat) (rest : List Char) : Parse Regex := do
      set rest
      repetitions steps (.bounded body least most false)
    match (← get) with
    | '*' :: rest => again 0 none rest
    | '+' :: rest => again 1 none rest
    | '?' :: rest => again 0 (some 1) rest
    | _ => pure body

mutual

def choices : Nat → Nat → Parse Regex
  | 0, _ => pure .empty
  | steps + 1, depth => do
    let first ← sequence steps depth none
    match (← get) with
    | '|' :: rest => do
      set rest
      let second ← choices steps depth
      pure (.either first second)
    | _ => pure first

def sequence : Nat → Nat → Option Regex → Parse Regex
  | 0, _, before => pure (before.getD .empty)
  | steps + 1, depth, before => do
    let isOver : Bool := match (← get) with
      | [] | '|' :: _ => true
      | ')' :: _ => 0 < depth
      | _ => false
    if isOver then
      match before with
      | some regex => pure regex
      | none => throw (if 0 < depth && (← get).isEmpty then .missingParenthesis else .missingOperand)
    else do
      let next ← piece steps depth
      sequence steps depth (some (match before with
        | some regex => .both regex next
        | none => next))

def piece : Nat → Nat → Parse Regex
  | 0, _ => pure .empty
  | steps + 1, depth => do
    let text ← get
    let plain (regex : Regex) (rest : List Char) : Parse Regex := do
      set rest
      repetitions rest.length regex
    match text with
    | [] => throw .missingOperand
    | c :: rest =>
      match c with
      | '*' | '+' | '?' => throw .missingOperand
      | '^' => do
        if rest.head? = some '*' || rest.head? = some '+' then throw .repeatedStart
        plain (.edge .textStart) rest
      | '$' => plain (.edge .textEnd) rest
      | '.' => plain (.one .all) rest
      | '[' => do
        set rest
        let found ← bracketSet
        plain (.one found) (← get)
      | '(' => do
        set rest
        let body ← choices steps (depth + 1)
        match (← get) with
        | ')' :: rest => plain body rest
        | _ => throw .missingParenthesis
      | '\\' =>
        let (meant, rest) := escape rest
        plain (.char meant) rest
      | c => plain (.char c) rest

end

def regexOf (text : List Char) : Except Fault Regex :=
  if text = [] then .ok .empty
  else do
    let (regex, _) ← (choices (4 * text.length + 4) 0).run text
    pure regex

def planOf (text : List Char) : Except Fault Regex.Plan := do
  pure ((← regexOf text).plan false false false)

end HouseStyle.Shell.Awk.Spelling
