import HouseStyle.Source.Scan
import HouseStyle.Text.Lower
import HouseStyle.Text.Word

/-!
# Function definitions and their documentation

A definition is found by its shape: on a code line a word, blanks, the name, a parenthesised list
and then an opening brace, on the same line or at the start of the next line that is not blank. The
names that the language itself uses in this shape, and `main`, are no definitions.

The documentation of a definition is looked for in a window of lines above it.
-/

namespace HouseStyle

structure Definition where
  line : Nat
  name : List Char
  deriving DecidableEq, Repr

namespace Definition

def exemptNames : List (List Char) :=
  ["main", "if", "while", "for", "switch"].map String.toList

def signature? (text : List Char) : Option (List Char × List Char) :=
  let word := text.takeWhile Text.isWordChar
  let afterWord := text.dropWhile Text.isWordChar
  let gap := afterWord.takeWhile Text.isBlank
  let afterGap := afterWord.dropWhile Text.isBlank
  let name := afterGap.takeWhile Text.isWordChar
  if word = [] || gap = [] || name = [] then none
  else match (afterGap.dropWhile Text.isWordChar).dropWhile Text.isBlank with
    | '(' :: arguments =>
      match arguments.dropWhile (· ≠ ')') with
      | ')' :: rest => some (name, rest)
      | _ => none
    | _ => none

def opensBody (text : List Char) : Bool :=
  text.head? = some '\x7b'

def bodyFollows (later : List Line) : Bool :=
  match later.find? fun line => !Line.isBlank line with
  | some line => opensBody (Text.trim line)
  | none => false

def definedName? (line : Line) (later : List Line) : Option (List Char) :=
  match signature? (Text.trim line) with
  | none => none
  | some (name, rest) =>
    let rest := Text.trimStart rest
    if exemptNames.contains name then none
    else if opensBody rest || (rest = [] && bodyFollows later) then some name
    else none

end Definition

def definitions (lines : List Line) : List Definition :=
  (codeLines lines).filterMap fun (index, line) =>
    (Definition.definedName? line (lines.drop (index + 1))).map fun name => ⟨index + 1, name⟩

structure Documentation where
  found : Bool
  mentionsName : Bool
  mentionsInterface : Bool
  deriving DecidableEq, Repr

namespace Documentation

def none : Documentation := ⟨false, false, false⟩

def isMark (line : Line) : Bool :=
  Line.opensComment line || Line.isContinuation line

def interfaceWords : List (List Char) :=
  ["return", "argument", "param"].map String.toList

def above (lines : List Line) (line window : Nat) : List Line :=
  let stop := min (line - 1) lines.length
  ((lines.take stop).drop (stop - window)).map Text.trim

/-- The comment text starts at the first mark in the window and runs to the definition. -/
def inspect (lines : List Line) (definition : Definition) (window : Nat) : Documentation :=
  match (above lines definition.line window).dropWhile fun line => !isMark line with
  | [] => none
  | comment =>
    let text := Text.lower ([' '].intercalate comment)
    { found := true
      mentionsName := Text.occursIn (Text.lower definition.name) text
      mentionsInterface := interfaceWords.any fun word => Text.occursIn word text }

end Documentation

end HouseStyle
