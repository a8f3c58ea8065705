import HouseStyle.Shell.Fields
import HouseStyle.Shell.Options

namespace HouseStyle.Shell

/-- A line of a text: its characters and whether they are quoted by a backslash, how many characters
of the text it takes, and whether its end was found. -/
structure InputLine where
  chars : List QuotedChar := []
  used : Nat := 0
  complete : Bool := false

namespace InputLine

def push (line : InputLine) (used : Nat) (chars : List QuotedChar) : InputLine :=
  { line with chars := chars ++ line.chars, used := used + line.used }

/-- The line at the start of a text. A backslash quotes the next character, and it joins a line with
the next one, unless the line is read as it is. -/
def ofText (raw : Bool) : List Char → InputLine
  | [] => {}
  | '\n' :: _ => { used := 1, complete := true }
  | '\\' :: c :: rest =>
    if raw then
      if c = '\n' then { chars := [('\\', false)], used := 2, complete := true }
      else (ofText raw rest).push 2 [('\\', false), (c, false)]
    else (ofText raw rest).push 2 (if c = '\n' then [] else [(c, true)])
  | c :: rest =>
    (ofText raw rest).push 1 (if c = '\x00' || c = '\\' && !raw then [] else [(c, false)])

end InputLine

def isSeparator (separators : List Char) (c : QuotedChar) : Bool :=
  !c.2 && separators.contains c.1

def isBlankSeparator (separators : List Char) (c : QuotedChar) : Bool :=
  isSeparator separators c && Cutting.isBlank c.1

def takeValue (separators : List Char) (line : List QuotedChar) :
    List QuotedChar × List QuotedChar :=
  let isBlank := isBlankSeparator separators
  let value := line.takeWhile (!isSeparator separators ·)
  let rest := (line.drop value.length).dropWhile isBlank
  match rest with
  | c :: after =>
    (value, if isSeparator separators c then after.dropWhile isBlank else rest)
  | [] => (value, [])

/-- As many values as there are variables. The last one is all that is left, without the separator
at its end if it holds no other. -/
def takeValues (separators : List Char) : Nat → List QuotedChar → List (List Char)
  | 0, _ => []
  | 1, line =>
    let (value, rest) := takeValue separators line
    let kept := if rest = [] then value
      else (line.reverse.dropWhile (isBlankSeparator separators)).reverse
    [kept.map (·.1)]
  | count + 1, line =>
    let (value, rest) := takeValue separators line
    value.map (·.1) :: takeValues separators count rest

namespace Exec

def readLineInto (words : List (List Char)) : Exec Nat := do
  let (options, names) ← takeOptions [('p', true), ('r', false)] words
  if names = [] then fail "arg count".toList
  let line := InputLine.ofText (options.any (·.1 = 'r')) (← pending 0)
  consume 0 line.used
  let separators ← separators
  let chars := line.chars.dropWhile (isBlankSeparator separators)
  let values := takeValues separators names.length chars
  (names.zip values).forM fun (name, value) => setValue name value
  pure (if line.complete then 0 else 1)

end Exec

end HouseStyle.Shell
