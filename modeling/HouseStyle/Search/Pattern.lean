import HouseStyle.Path
import HouseStyle.Text.Marks

namespace HouseStyle

inductive CharRange where
  | single (c : Char)
  | range (low high : Char)
  deriving DecidableEq, Repr

inductive PatternToken where
  | char (c : Char)
  | anyChar
  | anyRun
  | anyComponents
  | within (ranges : List CharRange)
  | except (ranges : List CharRange)
  deriving DecidableEq, Repr

structure Pattern where
  tokens : List PatternToken
  deriving DecidableEq, Repr

namespace CharRange

def holds (c : Char) : CharRange → Bool
  | single d => c = d
  | range low high => low ≤ c && c ≤ high

def ofText : List Char → List CharRange
  | low :: '-' :: high :: rest => range low high :: ofText rest
  | c :: rest => single c :: ofText rest
  | [] => []

end CharRange

def PatternToken.mark (text : List Char) (marks : Text.Marks) : PatternToken → Text.Marks
  | char c => marks.before (· = c) text
  | anyChar => marks.before (fun _ => true) text
  | anyRun => marks.anywhere
  | anyComponents =>
    let later := marks.afterAny (· = '/') text
    if marks.last then later.map fun _ => true else later
  | within ranges => marks.before (fun c => ranges.any (·.holds c)) text
  | except ranges => marks.before (fun c => !ranges.any (·.holds c)) text

namespace Pattern

def bracket? (text : List Char) : Option (PatternToken × List Char) :=
  let close (first : Char) (rest : List Char) : Option (List Char × List Char) :=
    match rest.dropWhile (· ≠ ']') with
    | _ :: after => some (first :: rest.takeWhile (· ≠ ']'), after)
    | [] => none
  match text with
  | '!' :: first :: rest =>
    (close first rest).map fun (body, after) => (.except (CharRange.ofText body), after)
  | '!' :: _ => none
  | first :: rest =>
    (close first rest).map fun (body, after) => (.within (CharRange.ofText body), after)
  | [] => none

/-- Read the tokens of a pattern in at most so many steps. `start` tells whether a component starts
here. -/
def tokens? : Nat → Bool → List Char → Option (List PatternToken)
  | _, _, [] => some []
  | 0, _, _ => none
  | steps + 1, _, '?' :: rest => (tokens? steps false rest).map (.anyChar :: ·)
  | _ + 1, _, '*' :: '*' :: '*' :: _ => none
  | steps + 1, start, '*' :: '*' :: rest =>
    if !start then none
    else match rest with
      | [] => some [.anyComponents]
      | '/' :: rest => (tokens? steps true rest).map (.anyComponents :: ·)
      | _ => none
  | steps + 1, _, '*' :: rest => (tokens? steps false rest).map (.anyRun :: ·)
  | steps + 1, _, '[' :: rest => do
    let (token, rest) ← bracket? rest
    pure (token :: (← tokens? steps false rest))
  | steps + 1, _, c :: rest => (tokens? steps (c = '/') rest).map (.char c :: ·)

def parse? (text : String) : Option Pattern :=
  (tokens? (text.toList.length + 1) true text.toList).map (⟨·⟩)

def accepts (tokens : List PatternToken) (text : List Char) : Bool :=
  (tokens.foldr (fun token marks => token.mark text marks) (Text.Marks.ofEnd text)).first

/-- Whether the pattern describes the path, as it is spelled. A path that is no text is described by
none. -/
def isMatch (pattern : Pattern) (path : Path) : Bool :=
  path.text?.any fun text => accepts pattern.tokens text.toList

end Pattern

end HouseStyle
