namespace HouseStyle.Shell.Quotation

def letter? (c : Char) : Option Char :=
  [('\x07', 'a'), ('\x08', 'b'), ('\t', 't'), ('\n', 'n'), ('\x0b', 'v'), ('\x0c', 'f'),
    ('\r', 'r')].lookup c

def octalDigits (n : Nat) : List Char :=
  [n / 64, n / 8 % 8, n % 8].map fun digit => Char.ofNat (0x30 + digit)

def isVisible (c : Char) : Bool :=
  ' ' ≤ c && c ≤ '~'

def escape (c : Char) : List Char :=
  '\\' :: match letter? c with
    | some letter => [letter]
    | none => octalDigits c.toNat

def isSpecial (c : Char) : Bool :=
  !isVisible c || c ∈ " !\"$&'()*:;<=>?[\\^\x60|".toList

def isStartMark (c : Char) : Bool :=
  c = '#' || c = '~'

def isNeeded (word : List Char) : Bool :=
  word = [] || word.any isSpecial || word.head?.any isStartMark ||
    word = ['\x7b'] || word = ['\x7d']

def isHarmless (c : Char) : Bool :=
  c.isAlphanum || c ∈ " %'+,-./:@]_".toList

def isAllHarmless : List Char → Bool
  | [] => true
  | c :: word => (isHarmless c || isStartMark c) && word.all isHarmless

def rest (escaping : Bool) : List Char → List Char
  | [] => ['\'']
  | c :: word =>
    if c = '\'' then ['\'', '\\', '\'', '\''] ++ rest false word
    else if !isVisible c then
      (if escaping then [] else ['\'', '$', '\'']) ++ escape c ++ rest true word
    else (if escaping then ['\'', '\''] else []) ++ c :: rest false word

def always (word : List Char) : List Char :=
  if word.contains '\'' && isAllHarmless word then ['"'] ++ word ++ ['"']
  else '\'' :: rest false word

def withEscapes (word : List Char) : List Char :=
  let shown (c : Char) : List Char :=
    if c = '\'' || c = '\\' then ['\\', c] else if isVisible c then [c] else escape c
  ['\''] ++ word.flatMap shown ++ ['\'']

def ifNeeded (word : List Char) : List Char :=
  if isNeeded word then always word else word

/-! ## Styles -/

inductive Style where
  | literal
  | shell
  | shellAlways
  | shellEscape
  | shellEscapeAlways
  | double
  | doubleMaybe
  | escape
  | single
  deriving DecidableEq, Repr

def escaped (isMark : Char → Bool) (word : List Char) : List Char :=
  word.flatMap fun c =>
    if c = '\\' || isMark c then ['\\', c] else if isVisible c then [c] else escape c

def plainly (word : List Char) : List Char :=
  if word.contains '\'' && isAllHarmless word then ['"'] ++ word ++ ['"']
  else ['\''] ++ word.flatMap (fun c =>
    if c = '\'' then ['\'', '\\', '\'', '\''] else [c]) ++ ['\'']

def isQuoted (style : Style) (isMark : Char → Bool) (word : List Char) : Bool :=
  let isBreak (c : Char) : Bool := c = '\t' || c = '\n' || c = '\r'
  let special (c : Char) : Bool := isVisible c && c ≠ ':' && isSpecial c
  let forShell := word = [] || word.head?.any isStartMark || word = ['\x7b'] || word = ['\x7d'] ||
    word.any fun c => special c || isMark c
  match style with
  | .literal | .escape => false
  | .shellAlways | .shellEscapeAlways | .double | .single => true
  | .shell => forShell || word.any isBreak
  | .shellEscape => forShell || word.any fun c => !isVisible c
  | .doubleMaybe => word.any fun c => c = '"' || isMark c || !isVisible c

def styled (style : Style) (isMark : Char → Bool) (word : List Char) : List Char :=
  let inDouble := ['"'] ++ escaped (fun c => c = '"' || isMark c) word ++ ['"']
  if !isQuoted style isMark word then
    if style = .escape then escaped isMark word else word
  else match style with
    | .literal | .escape => word
    | .shell | .shellAlways => plainly word
    | .shellEscape | .shellEscapeAlways => always word
    | .double | .doubleMaybe => inDouble
    | .single => ['\''] ++ escaped (fun c => c = '\'' || isMark c) word ++ ['\'']

end HouseStyle.Shell.Quotation
