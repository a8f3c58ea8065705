import HouseStyle.FileTree.Basic
import HouseStyle.Shell.Pattern
import HouseStyle.Shell.Regex.Plan

/-!
# Queries for files

A query is made of tests and actions, which are joined by operators. It is asked for each file that
is met, and it is true or false for it; what stands behind an operator is asked only if it matters.
-/

namespace HouseStyle.Shell.FileQuery

inductive Amount where
  | less (bound : Nat)
  | equal (value : Nat)
  | more (bound : Nat)
  deriving DecidableEq, Repr

def Amount.fits : Amount → Nat → Bool
  | less bound, n => n < bound
  | equal value, n => n = value
  | more bound, n => bound < n

inductive Permissions where
  | exactly (bits : Nat)
  | allOf (bits : Nat)
  | anyOf (bits : Nat)
  deriving DecidableEq, Repr

def Permissions.fits : Permissions → Nat → Bool
  | exactly bits, mode => mode = bits
  | allOf bits, mode => mode &&& bits = bits
  | anyOf bits, mode => bits = 0 || mode &&& bits ≠ 0

inductive Leaf where
  | constant (value : Bool)
  | name (pattern : List GlobToken) (folded : Bool)
  | path (pattern : List GlobToken) (folded : Bool)
  | target (pattern : List GlobToken) (folded : Bool)
  | spelled (plan : Regex.Plan)
  | sort (letters : List Char) (behind : Bool)
  | empty
  | size (amount : Amount) (unit : Nat)
  | links (amount : Amount)
  | owner (amount : Amount)
  | newer (time : Int)
  /-- Changed so many times a number of seconds ago; with details, which can be given a new time only
  by a change. -/
  | age (amount : Amount) (unit : Nat) (detail : Bool)
  | mode (permissions : Permissions)
  | same (place : Place)
  | runnable
  | print (lineEnd : Char) (output : Option Nat)
  | format (format : List Char) (output : Option Nat)
  | list (output : Option Nat)
  | delete
  | prune
  | quit
  | run (words : List (List Char)) (inside asks : Bool)
  | runAll (number : Nat) (words : List (List Char)) (inside : Bool)

def Leaf.acts : Leaf → Bool
  | print _ _ | format _ _ | list _ | delete | run _ _ _ | runAll _ _ _ => true
  | _ => false

inductive Query where
  | leaf (leaf : Leaf)
  | negated (query : Query)
  | both (left right : Query)
  | either (left right : Query)
  | last (left right : Query)

inductive Operator where
  | both
  | either
  | last
  deriving DecidableEq, Repr

def Operator.strength : Operator → Nat
  | last => 1
  | either => 2
  | both => 3

def Operator.join : Operator → Query → Query → Query
  | both => .both
  | either => .either
  | last => .last

inductive Token where
  | leaf (leaf : Leaf)
  | negation (name : List Char)
  | operator (operator : Operator) (name : List Char)
  | opening
  | closing
  | ending

abbrev Tokens := List Token

abbrev Faulty := Except (List Char)

def wrong {α : Type} (message : String) : Faulty α :=
  .error message.toList

mutual

/-- Read a query whose operators bind tighter than a strength, in at most so many steps. `before` is
the name of the operator that stands before it. -/
def readQuery : Nat → Nat → Option (List Char) → Tokens → Faulty (Query × Tokens)
  | 0, _, _, _ => wrong "invalid expression"
  | steps + 1, strength, before, tokens => do
    let (first, rest) ← readOne steps before tokens
    readRest steps strength first rest

def readOne : Nat → Option (List Char) → Tokens → Faulty (Query × Tokens)
  | 0, _, _ => wrong "invalid expression"
  | steps + 1, before, tokens =>
    match tokens with
    | [] => wrong "invalid expression"
    | .leaf leaf :: rest => pure (.leaf leaf, rest)
    | .negation name :: rest => do
      let (query, rest) ← readOne steps (some name) rest
      pure (.negated query, rest)
    | .operator _ name :: _ =>
      .error ("invalid expression; you have used a binary operator '".toList ++ name ++
        "' with nothing before it.".toList)
    | .opening :: rest =>
      match rest with
      | [] | .ending :: _ =>
        wrong ("invalid expression; expected to find a ')' but didn't see one. " ++
          "Perhaps you need an extra predicate after '('")
      | .closing :: _ => wrong "invalid expression; empty parentheses are not allowed."
      | rest => do
        let (query, rest) ← readQuery steps 0 none rest
        match rest with
        | .closing :: rest => pure (query, rest)
        | _ =>
          wrong ("invalid expression; I was expecting to find a ')' somewhere but did not see " ++
            "one.")
    | .closing :: _ =>
      match before with
      | some name =>
        .error ("expected an expression between '".toList ++ name ++ "' and ')'".toList)
      | none => wrong "invalid expression; you have too many ')'"
    | .ending :: _ =>
      match before with
      | some name => .error ("expected an expression after '".toList ++ name ++ ['\''])
      | none => wrong "invalid expression"

def readRest : Nat → Nat → Query → Tokens → Faulty (Query × Tokens)
  | 0, _, query, tokens => pure (query, tokens)
  | steps + 1, strength, query, tokens =>
    match tokens with
    | .operator operator name :: rest =>
      if operator.strength ≤ strength then pure (query, tokens)
      else do
        let (right, rest) ← readQuery steps operator.strength (some name) rest
        readRest steps strength (operator.join query right) rest
    | tokens => pure (query, tokens)

end

def ofTokens (tokens : Tokens) : Faulty Query :=
  match tokens with
  | [] => .ok (.leaf (.constant true))
  | tokens => do
    let (query, rest) ← readQuery (4 * tokens.length + 4) 0 none (tokens ++ [.ending])
    match rest with
    | [.ending] => pure query
    | _ => wrong "you have too many ')'"

def add (tokens : Tokens) (token : Token) : Tokens :=
  let isStart : Bool := match token with
    | .leaf _ | .negation _ | .opening => true
    | _ => false
  match tokens.getLast?, isStart with
  | some (.leaf _), true | some .closing, true =>
    tokens ++ [.operator .both "-a".toList, token]
  | _, _ => tokens ++ [token]

end HouseStyle.Shell.FileQuery
