namespace HouseStyle.Text

abbrev Reader := StateT (List Char) Option

namespace Reader

variable {α : Type}

def all (reader : Reader α) (text : List Char) : Option α :=
  match reader text with
  | some (value, []) => some value
  | _ => none

def peek : Reader (Option Char) := fun text =>
  some (text.head?, text)

def satisfy (test : Char → Bool) : Reader Char
  | c :: rest => if test c then some (c, rest) else none
  | [] => none

def char (c : Char) : Reader Unit := do
  let _ ← satisfy (· = c)

def literal (word : List Char) : Reader Unit := fun text =>
  if word.isPrefixOf text then some ((), text.drop word.length) else none

def run (test : Char → Bool) : Reader (List Char) := fun text =>
  some (text.takeWhile test, text.dropWhile test)

def run1 (test : Char → Bool) : Reader (List Char) := do
  let taken ← run test
  if taken = [] then failure else pure taken

def maybe (reader : Reader α) : Reader (Option α) := fun text =>
  match reader text with
  | some (value, rest) => some (some value, rest)
  | none => some (none, text)

def upTo : Nat → Reader α → Reader (List α)
  | 0, _ => pure []
  | count + 1, step => fun text =>
    match step text with
    | none => some ([], text)
    | some (value, rest) =>
      match upTo count step rest with
      | none => none
      | some (values, rest) => some (value :: values, rest)

def many (step : Reader α) : Reader (List α) := fun text =>
  upTo text.length step text

def separated (separator : Reader Unit) (item : Reader α) : Reader (List α) := do
  let first ← item
  let others ← many (do separator; item)
  pure (first :: others)

def atEnd : Reader Unit
  | [] => some ((), [])
  | _ :: _ => none

end Reader

end HouseStyle.Text
