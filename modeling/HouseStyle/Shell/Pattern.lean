import HouseStyle.Text.Digits
import HouseStyle.Text.Marks

/-!
# Patterns in scripts

A pattern is a text of which some characters are quoted; those stand for themselves. Of the others a
star stands for any text, a question mark for any character, and brackets for one of the characters
in them, or for any other.
-/

namespace HouseStyle.Shell

abbrev QuotedChar := Char × Bool

inductive GlobItem where
  | range (low high : Char)
  | ofClass (name : List Char)
  deriving DecidableEq, Repr

inductive GlobToken where
  | char (c : Char)
  | anyChar
  | anyRun
  | oneOf (negated : Bool) (items : List GlobItem)
  deriving DecidableEq, Repr

namespace GlobItem

def classes : List (String × (Char → Bool)) :=
  [("alpha", Char.isAlpha), ("digit", Char.isDigit), ("alnum", Char.isAlphanum),
    ("upper", Char.isUpper), ("lower", Char.isLower), ("xdigit", Text.isHexDigit),
    ("space", fun c => c = ' ' || '\t' ≤ c && c ≤ '\r'), ("blank", fun c => c = ' ' || c = '\t'),
    ("punct", fun c => '!' ≤ c && c ≤ '~' && !c.isAlphanum), ("print", fun c => ' ' ≤ c && c ≤ '~'),
    ("graph", fun c => '!' ≤ c && c ≤ '~'), ("cntrl", fun c => c < ' ' || c = '\x7f')]

def class? (name : List Char) : Option (Char → Bool) :=
  classes.lookup (String.ofList name)

def holds (c : Char) : GlobItem → Bool
  | range low high => low ≤ c && c ≤ high
  | ofClass name => match class? name with
    | some test => test c
    | none => false

end GlobItem

def className? (text : List QuotedChar) : Option (List Char × List QuotedChar) :=
  match text with
  | (':', false) :: rest =>
    let name := (rest.takeWhile fun c => c.1.isAlpha).map (·.1)
    match rest.drop name.length with
    | (':', _) :: (']', _) :: after =>
      if (GlobItem.class? name).isSome then some (name, after) else none
    | _ => none
  | _ => none

def bracketItems : Nat → Bool → List QuotedChar → Option (List GlobItem × List QuotedChar)
  | 0, _, _ => none
  | _ + 1, _, [] => none
  | steps + 1, first, (c, quoted) :: rest =>
    let and (item : GlobItem) (found : Option (List GlobItem × List QuotedChar)) :=
      found.map fun (items, after) => (item :: items, after)
    if c = ']' && !quoted && !first then some ([], rest)
    else match if c = '[' && !quoted then className? rest else none with
      | some (name, after) => and (.ofClass name) (bracketItems steps false after)
      | none =>
        match rest with
        | ('-', false) :: (high, highQuoted) :: after =>
          if high = ']' && !highQuoted then and (.range c c) (bracketItems steps false rest)
          else and (.range c high) (bracketItems steps false after)
        | _ => and (.range c c) (bracketItems steps false rest)

/-- The tokens of a pattern. A bracket that is not closed stands for itself, and a backslash makes
the next character stand for itself. -/
def globTokens : Nat → List QuotedChar → List GlobToken
  | 0, _ => []
  | _ + 1, [] => []
  | steps + 1, (c, true) :: rest => .char c :: globTokens steps rest
  | steps + 1, (c, false) :: rest =>
    match c with
    | '*' => .anyRun :: globTokens steps rest
    | '?' => .anyChar :: globTokens steps rest
    | '\\' => match rest with
      | (d, _) :: rest => .char d :: globTokens steps rest
      | [] => [.char '\\']
    | '[' =>
      let (negated, body) := match rest with
        | ('!', false) :: body | ('^', false) :: body => (true, body)
        | body => (false, body)
      match bracketItems (body.length + 1) true body with
      | some (items, after) => .oneOf negated items :: globTokens steps after
      | none => .char '[' :: globTokens steps rest
    | c => .char c :: globTokens steps rest

def GlobToken.mark (text : List Char) (marks : Text.Marks) : GlobToken → Text.Marks
  | char c => marks.before (· = c) text
  | anyChar => marks.before (fun _ => true) text
  | anyRun => marks.anywhere
  | oneOf negated items => marks.before (fun c => items.any (·.holds c) ≠ negated) text

def globOf (pattern : List QuotedChar) : List GlobToken :=
  globTokens (pattern.length + 1) pattern

def markGlob (tokens : List GlobToken) (text : List Char) (marks : Text.Marks) : Text.Marks :=
  tokens.foldr (fun token marks => token.mark text marks) marks

def globMatches (tokens : List GlobToken) (text : List Char) : Bool :=
  (markGlob tokens text (Text.Marks.ofEnd text)).first

def isGlob (pattern : List QuotedChar) : Bool :=
  (globOf pattern).any fun
    | .char _ => false
    | _ => true

/-! ## Taking a part off a text

A text can be a list of texts with a NUL between each two. Then a pattern describes a beginning or
an end if it describes the first of the texts in it, and the longest end starts in the first text of
all. -/

def firstText (text : List Char) : List Char :=
  text.takeWhile (· ≠ '\x00')

def trimStart (tokens : List GlobToken) (longest : Bool) (text : List Char) : List Char :=
  let lengths := List.range (text.length + 1)
  let lengths := if longest then lengths.reverse else lengths
  match lengths.find? fun length => globMatches tokens (firstText (text.take length)) with
  | some length => text.drop length
  | none => text

def matchedEnds (tokens : List GlobToken) (text : List Char) : List Bool :=
  if text.contains '\x00' then
    (List.range (text.length + 1)).map fun length =>
      globMatches tokens (firstText (text.drop length))
  else markGlob tokens text (Text.Marks.ofEnd text)

def trimEnd (tokens : List GlobToken) (longest : Bool) (text : List Char) : List Char :=
  let ends := matchedEnds tokens text
  let lengths := (List.range (text.length + 1)).filter fun length => ends[length]?.getD false
  let found := if longest then lengths.head?.filter (· ≤ (firstText text).length)
    else lengths.getLast?
  match found with
  | some length => text.take length
  | none => text

end HouseStyle.Shell
