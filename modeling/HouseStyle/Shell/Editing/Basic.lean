import HouseStyle.Shell.Regex.Plan

namespace HouseStyle.Shell.Editing

inductive Address where
  | line (number : Nat)
  | every (first step : Nat)
  | last
  | fitting (plan : Option Regex.Plan)
  | further (count : Nat)
  | multiple (factor : Nat)

inductive Casing where
  | asIs
  | upper
  | lower
  deriving DecidableEq, Repr

structure Piece where
  text : List Char := []
  casing : Casing := .asIs
  first : Option Casing := none
  group : Option Nat := none

structure Substitution where
  plan : Option Regex.Plan
  pieces : List Piece
  all : Bool := false
  number : Nat := 0
  printsBefore : Bool := false
  printsAfter : Bool := false
  runs : Bool := false
  file : Option (List Char) := none

inductive Command where
  | block (stop : Nat)
  | nothing
  | append (text : List Char)
  | insert (text : List Char)
  | change (text : List Char)
  | jump (label : List Char)
  | jumpIfChanged (label : List Char)
  | jumpUnlessChanged (label : List Char)
  | delete
  | deleteFirst
  | run (command : List Char)
  | showFile
  | recall
  | recallMore
  | keep
  | keepMore
  | exchange
  | list (width : Option Nat)
  | next
  | nextMore
  | print
  | printFirst
  | quit (status : Nat)
  | quitSilently (status : Nat)
  | readFile (path : List Char)
  | readLine (path : List Char)
  | substitute (substitution : Substitution)
  | translate (table : List (Char × Char))
  | write (path : List Char)
  | writeFirst (path : List Char)
  | empty
  | number
  | broken (letter : Char)

structure Step where
  first : Option Address := none
  second : Option Address := none
  negated : Bool := false
  command : Command := .nothing

def Command.written? : Command → Option (List Char)
  | write path | writeFirst path => some path
  | substitute substitution => substitution.file
  | _ => none

/-! ## Texts that are put in -/

def Casing.apply : Casing → List Char → List Char
  | asIs, text => text
  | upper, text => text.map Char.toUpper
  | lower, text => text.map Char.toLower

def cased (casing : Casing) (first : Option Casing) (text : List Char) : List Char :=
  match first, text with
  | some other, c :: rest => other.apply [c] ++ casing.apply rest
  | _, text => casing.apply text

def fill (part : Nat → List Char) : List Piece → Option Casing → List Char
  | [], _ => []
  | piece :: rest, carried =>
    let first := piece.first.or carried
    let start := cased piece.casing first piece.text
    let left := if piece.text = [] then first else none
    match piece.group with
    | none => start ++ fill part rest none
    | some group =>
      match part group with
      | [] => start ++ fill part rest (if piece.first.isSome then left else none)
      | text => start ++ cased piece.casing left text ++ fill part rest none

def partOf (found : Regex.Plan.Found) (group : Nat) : List Char :=
  if group = 0 then found.text else (found.groups.lookup group).getD []

/-- Replace texts that fit, in at most so many steps. `before` is what stands before, the last
character first, and `count` how many were found. An empty text that stands right behind another one
does not count. Gives the result, the last character first, and whether something was replaced. -/
def replace (plan : Regex.Plan) (substitution : Substitution) :
    Nat → List Char → List Char → Nat → Bool → List Char → Bool → List Char × Bool
  | 0, _, rest, _, _, done, changed => (rest.reverse ++ done, changed)
  | steps + 1, before, rest, count, touching, done, changed =>
    match plan.find? before rest with
    | none => (rest.reverse ++ done, changed)
    | some found =>
      let skipped := rest.take (rest.length - found.text.length - found.rest.length)
      let done := skipped.reverse ++ done
      let passOn (done : List Char) (count : Nat) (changed : Bool) : List Char × Bool :=
        if found.text = [] then
          match found.rest with
          | [] => (done, changed)
          | c :: left =>
            replace plan substitution steps (c :: found.before) left count false (c :: done) changed
        else
          replace plan substitution steps (found.text.reverse ++ found.before) found.rest count true
            done changed
      if found.text = [] && skipped = [] && touching then passOn done count changed
      else if count + 1 < substitution.number then
        passOn (found.text.reverse ++ done) (count + 1) changed
      else
        let text := fill (partOf found) substitution.pieces none
        let done := text.reverse ++ done
        if substitution.all then passOn done (count + 1) true
        else (found.rest.reverse ++ done, true)

def Substitution.apply? (substitution : Substitution) (plan : Regex.Plan) (line : List Char) :
    Option (List Char) :=
  match replace plan substitution (line.length + 2) [] line 0 false [] false with
  | (done, true) => some done.reverse
  | (_, false) => none

/-! ## Lines in full -/

def spelled (c : Char) : List Char :=
  match [('\\', '\\'), ('\x07', 'a'), ('\x08', 'b'), ('\x0c', 'f'), ('\n', 'n'), ('\r', 'r'),
      ('\t', 't'), ('\x0b', 'v')].lookup c with
  | some letter => ['\\', letter]
  | none =>
    if 32 ≤ c.toNat && c.toNat < 127 then [c]
    else
      let digits := Nat.toDigits 8 c.toNat
      '\\' :: List.replicate (3 - digits.length) '0' ++ digits

def listed (width : Nat) (line : List Char) : List Char :=
  let (done, _) := line.foldl (fun (done, column) c =>
    let text := spelled c
    if 0 < width && width - 1 < column + text.length then
      (text.reverse ++ '\n' :: '\\' :: done, text.length)
    else (text.reverse ++ done, column + text.length)) (([] : List Char), 0)
  done.reverse ++ ['$', '\n']

end HouseStyle.Shell.Editing
