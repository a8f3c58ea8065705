import HouseStyle.Shell.Fields
import HouseStyle.Shell.Printing

namespace HouseStyle.Shell

namespace Condition

inductive Comparison where
  | same
  | differs
  | before
  | after
  | equal
  | notEqual
  | greaterEqual
  | greater
  | lessEqual
  | less
  | newer
  | older
  | sameFile
  deriving DecidableEq, Repr

inductive Operator where
  | negation
  | conjunction
  | disjunction
  | opening
  | closing
  | question (letter : Char)
  | comparison (comparison : Comparison)
  deriving DecidableEq, Repr

def questions : List Char :=
  "rwxefdcbpugkstznhOGLS".toList

def comparison? : List Char → Option Comparison
  | ['='] => some .same
  | ['!', '='] => some .differs
  | ['<'] => some .before
  | ['>'] => some .after
  | ['-', 'e', 'q'] => some .equal
  | ['-', 'n', 'e'] => some .notEqual
  | ['-', 'g', 'e'] => some .greaterEqual
  | ['-', 'g', 't'] => some .greater
  | ['-', 'l', 'e'] => some .lessEqual
  | ['-', 'l', 't'] => some .less
  | ['-', 'n', 't'] => some .newer
  | ['-', 'o', 't'] => some .older
  | ['-', 'e', 'f'] => some .sameFile
  | _ => none

def operator? : List Char → Option Operator
  | ['!'] => some .negation
  | ['('] => some .opening
  | [')'] => some .closing
  | ['-', 'a'] => some .conjunction
  | ['-', 'o'] => some .disjunction
  | ['-', letter] => if letter ∈ questions then some (.question letter) else none
  | word => (comparison? word).map .comparison

def Operator.isComparison : Option Operator → Bool
  | some (.comparison _) => true
  | _ => false

structure Facts where
  ask : Char → List Char → Bool
  isSame : List Char → List Char → Bool
  isNewer : List Char → List Char → Bool

abbrev Decision := Except (List Char)

inductive Front where
  | nothing
  | operand
  | operator (operator : Operator)
  deriving DecidableEq, Repr

def front : List (List Char) → Front
  | [] => .nothing
  | word :: rest =>
    match operator? word with
    | none => .operand
    | some operator =>
      match operator, rest with
      | .question _, [] => .operand
      | .question _, [_] => .operator operator
      | .question _, next :: _ :: _ =>
        if Operator.isComparison (operator? next) then .operand else .operator operator
      | .opening, [] => .operand
      | operator, _ => .operator operator

def number (text : List Char) : Decision Int :=
  match Arithmetic.ofDecimal? text with
  | some value => .ok value
  | none => .error ("Illegal number: ".toList ++ text)

def compare (facts : Facts) (comparison : Comparison) (left right : List Char) :
    Decision Bool := do
  let numbers (holds : Int → Int → Bool) : Decision Bool := do
    let left ← number left
    let right ← number right
    pure (holds left right)
  match comparison with
  | .same => pure (left = right)
  | .differs => pure (left ≠ right)
  | .before => pure (textBefore left right)
  | .after => pure (textBefore right left)
  | .equal => numbers fun left right => left = right
  | .notEqual => numbers fun left right => left ≠ right
  | .greaterEqual => numbers fun left right => left ≥ right
  | .greater => numbers fun left right => left > right
  | .lessEqual => numbers fun left right => left ≤ right
  | .less => numbers fun left right => left < right
  | .sameFile => pure (facts.isSame left right)
  | .newer => pure (facts.isNewer left right)
  | .older => pure (facts.isNewer right left)

def ask (facts : Facts) (letter : Char) (operand : List Char) : Decision Bool := do
  match letter with
  | 'z' => pure (operand = [])
  | 'n' => pure (operand ≠ [])
  | 't' => do
    let _ ← number operand
    pure false
  | _ => pure (facts.ask letter operand)

mutual

/-- Decide what stands at the start of the words. Gives also the words from the last one on that was
used. -/
def disjunction (facts : Facts) :
    Nat → Front → List (List Char) → Decision (Bool × List (List Char))
  | 0, _, words => pure (false, words)
  | fuel + 1, start, words => do
    let (holds, words) ← conjunction facts fuel start words
    match front words.tail with
    | .operator .disjunction => do
      let words := words.drop 2
      let (more, words) ← disjunction facts fuel (front words) words
      pure (holds || more, words)
    | _ => pure (holds, words)

def conjunction (facts : Facts) :
    Nat → Front → List (List Char) → Decision (Bool × List (List Char))
  | 0, _, words => pure (false, words)
  | fuel + 1, start, words => do
    let (holds, words) ← negation facts fuel start words
    match front words.tail with
    | .operator .conjunction => do
      let words := words.drop 2
      let (more, words) ← conjunction facts fuel (front words) words
      pure (holds && more, words)
    | _ => pure (holds, words)

def negation (facts : Facts) :
    Nat → Front → List (List Char) → Decision (Bool × List (List Char))
  | 0, _, words => pure (false, words)
  | fuel + 1, start, words => do
    match start with
    | .operator .negation => do
      let next := front words.tail
      let words := if next = .nothing then words else words.tail
      let (holds, words) ← negation facts fuel next words
      pure (!holds, words)
    | _ => primary facts fuel start words

def primary (facts : Facts) :
    Nat → Front → List (List Char) → Decision (Bool × List (List Char))
  | 0, _, words => pure (false, words)
  | fuel + 1, start, words => do
    match start, words with
    | .nothing, _ | _, [] => pure (false, words)
    | .operator .opening, _ :: words => do
      match front words with
      | .operator .closing => pure (false, words)
      | next => do
        let (holds, words) ← disjunction facts fuel next words
        match front words.tail with
        | .operator .closing => pure (holds, words.tail)
        | _ => .error "closing paren expected".toList
    | .operator (.question letter), word :: words => do
      match words with
      | [] => .error (word ++ ": argument expected".toList)
      | operand :: _ => do
        pure (← ask facts letter operand, words)
    | _, word :: rest => do
      match front rest, rest with
      | .operator (.comparison comparison), operator :: rest => do
        match rest with
        | [] => .error (operator ++ ": argument expected".toList)
        | operand :: _ => do
          pure (← compare facts comparison word operand, rest)
      | _, _ => pure (word ≠ [], words)

end

def whole (facts : Facts) (start : Front) (words : List (List Char)) : Decision Bool := do
  let (holds, rest) ← disjunction facts (8 * words.length + 16) start words
  match rest with
  | word :: _ :: _ =>
    .error ((if word = [] then [] else word ++ [':', ' ']) ++ "unexpected operator".toList)
  | _ => pure holds

/-- A condition of three words. With a comparison in the middle it is that, whatever the words look
like; else it can be put in parentheses or be denied. It is denied only once. -/
def three (facts : Facts) (denied : Bool) (left name right : List Char) : Decision Bool := do
  let words := [left, name, right]
  if Operator.isComparison (operator? name) then
    pure (denied != (← whole facts .operand words))
  else if left = ['('] && right = [')'] then
    pure (denied != (← whole facts (front [name]) [name]))
  else if left = ['!'] then
    pure (!(← whole facts (front [name, right]) [name, right]))
  else pure (denied != (← whole facts (front words) words))

def decide (facts : Facts) : List (List Char) → Decision Bool
  | [] => pure false
  | [left, name, right] => three facts false left name right
  | [first, left, name, right] =>
    if first = ['('] && right = [')'] then whole facts (front [left, name]) [left, name]
    else if first = ['!'] then three facts true left name right
    else
      let words := [first, left, name, right]
      whole facts (front words) words
  | words => whole facts (front words) words

end Condition

end HouseStyle.Shell
