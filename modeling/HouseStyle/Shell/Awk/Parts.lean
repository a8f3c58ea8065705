import HouseStyle.Shell.Awk.Spelling

namespace HouseStyle.Shell.Awk

inductive Separator where
  | blanks
  | nothing
  | char (c : Char)
  | fitting (plan : Regex.Plan)

namespace Separator

def ofText (text : List Char) : Except Spelling.Fault Separator :=
  match text with
  | [] => .ok .nothing
  | [' '] => .ok .blanks
  | [c] => .ok (.char c)
  | text => (Spelling.planOf text).map .fitting

def words : Nat → List (List Char) → List Char → List (List Char)
  | 0, found, _ => found.reverse
  | steps + 1, found, text =>
    let start := text.dropWhile isSpace
    if start.isEmpty then found.reverse
    else
      let word := start.takeWhile fun c => !isSpace c
      words steps (word :: found) (start.drop word.length)

def cutAt (mark : Char) : List (List Char) → List Char → List Char → List (List Char)
  | found, part, [] => (part.reverse :: found).reverse
  | found, part, c :: rest =>
    if c = mark then cutAt mark (part.reverse :: found) [] rest
    else cutAt mark found (c :: part) rest

def find? (plan : Regex.Plan) : Nat → List Char → List Char → Option Regex.Plan.Found
  | 0, _, _ => none
  | steps + 1, before, text =>
    match plan.find? before text with
    | none => none
    | some found =>
      if found.text ≠ [] then some found
      else match found.rest with
        | [] => none
        | c :: rest => find? plan steps (c :: found.before) rest

def cutWhere (plan : Regex.Plan) :
    Nat → List (List Char) → List Char → List Char → List (List Char)
  | 0, found, _, text => (text :: found).reverse
  | steps + 1, parts, before, text =>
    match find? plan (text.length + 1) before text with
    | none => (text :: parts).reverse
    | some found =>
      let size := text.length - found.text.length - found.rest.length
      cutWhere plan steps (text.take size :: parts) (found.text.reverse ++ found.before) found.rest

def parts (separator : Separator) (text : List Char) : List (List Char) :=
  if text = [] then []
  else match separator with
    | blanks => words (text.length + 1) [] text
    | nothing => text.map fun c => [c]
    | char c => cutAt c [] [] text
    | fitting plan => cutWhere plan (text.length + 1) [] [] text

end Separator

inductive RecordEnd where
  | char (c : Char)
  | emptyLines
  | fitting (plan : Regex.Plan)

namespace RecordEnd

def ofText (text : List Char) : Except Spelling.Fault RecordEnd :=
  match text with
  | [] => .ok .emptyLines
  | [c] => .ok (.char c)
  | text => (Spelling.planOf text).map .fitting

def paragraph : List Char → List Char → List Char × List Char
  | found, [] => (match found with
    | '\n' :: found => found
    | found => found, [])
  | found, '\n' :: '\n' :: rest => (found, rest.dropWhile (· = '\n'))
  | found, c :: rest => paragraph (c :: found) rest

def first? (recordEnd : RecordEnd) (text : List Char) : Option (List Char × List Char) :=
  match recordEnd with
  | char c =>
    if text = [] then none
    else
      let record := text.takeWhile (· ≠ c)
      some (record, text.drop (record.length + 1))
  | emptyLines =>
    let start := text.dropWhile (· = '\n')
    if start = [] then none
    else
      let (record, rest) := paragraph [] start
      some (record.reverse, rest)
  | fitting plan =>
    if text = [] then none
    else match Separator.find? plan (text.length + 1) [] text with
      | none => some (text, [])
      | some found =>
        some (text.take (text.length - found.text.length - found.rest.length), found.rest)

end RecordEnd

/-! ## Replacements -/

def filled (found : List Char) : List Char → List Char
  | [] => []
  | '\\' :: '\\' :: '&' :: rest => '\\' :: (found ++ filled found rest)
  | '\\' :: '&' :: rest => '&' :: filled found rest
  | '&' :: rest => found ++ filled found rest
  | c :: rest => c :: filled found rest

def replaceFirst (plan : Regex.Plan) (replacement text : List Char) : Option (List Char) :=
  (plan.find? [] text).map fun found =>
    found.before.reverse ++ filled found.text replacement ++ found.rest

/-- Replace all texts that fit, in at most so many steps. What was written stands with the last
character first. `behind` tells that a text that fits ends here; an empty one does not count then. -/
def replaceAll (plan : Regex.Plan) (replacement : List Char) :
    Nat → Bool → List Char → List Char → List Char → Nat → List Char × Nat
  | 0, _, written, _, text, count => (text.reverse ++ written, count)
  | steps + 1, behind, written, before, text, count =>
    match plan.find? before text with
    | none => (text.reverse ++ written, count)
    | some found =>
      let skipped := text.take (text.length - found.text.length - found.rest.length)
      if found.text ≠ [] then
        replaceAll plan replacement steps true
          ((filled found.text replacement).reverse ++ skipped.reverse ++ written)
          (found.text.reverse ++ found.before) found.rest (count + 1)
      else
        let isNew := !(behind && skipped = [])
        let written := skipped.reverse ++ written
        let written := if isNew then (filled [] replacement).reverse ++ written else written
        let count := if isNew then count + 1 else count
        match found.rest with
        | [] => (written, count)
        | c :: rest =>
          replaceAll plan replacement steps false (c :: written) (c :: found.before) rest count

def replacedAll (plan : Regex.Plan) (replacement text : List Char) : List Char × Nat :=
  let (written, count) :=
    replaceAll plan replacement (2 * text.length + 2) false [] [] text 0
  (written.reverse, count)

def indexOf (wanted : List Char) : Nat → List Char → Nat
  | position, [] => if wanted = [] then position else 0
  | position, c :: rest =>
    if wanted.isPrefixOf (c :: rest) then position else indexOf wanted (position + 1) rest

/-! ## Random numbers -/

abbrev Random := List Nat

namespace Random

def next (numbers : Random) : Random :=
  let sum := (numbers[28]?).getD 0 + numbers.headD 0
  numbers.tail ++ [sum % 0x100000000]

def start (seed : Nat) : Random :=
  let first := if seed = 0 then 1 else seed % 0x100000000
  let numbers := (List.range 30).foldl (fun numbers _ =>
    (numbers.headD 0 * 16807 % 0x7FFFFFFF) :: numbers) [first]
  let turned := numbers.reverse.drop 3 ++ numbers.reverse.take 3
  (List.range 310).foldl (fun numbers _ => next numbers) turned

def draw (numbers : Random) : Float × Random :=
  let numbers := next numbers
  (Float.ofNat (numbers.getLastD 0 / 2) / 2147483647, numbers)

end Random

end HouseStyle.Shell.Awk
