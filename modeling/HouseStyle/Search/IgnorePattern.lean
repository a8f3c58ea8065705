import HouseStyle.Text.Marks
import HouseStyle.Text.Reader

/-!
# Patterns of ignore files

A pattern describes paths below a directory, byte by byte. A question mark stands for one byte and
a star for a run of bytes, neither for a separator. Brackets stand for one of the bytes in them,
and braces for one of the alternatives between the commas in them. Two stars that are a component
of their own stand for any number of components. A backslash makes the next character an ordinary
one.
-/

namespace HouseStyle

inductive IgnoreToken where
  | byte (b : UInt8)
  | anyByte
  | anyRun
  | bytes (negated : Bool) (ranges : List (UInt8 × UInt8))
  | leading
  | trailing
  | between
  | oneOf (ways : List (List IgnoreToken))

inductive IgnoreSign where
  | plain (c : Char)
  | escaped (c : Char)
  | question
  | star
  | twoStars
  | brackets (negated : Bool) (ranges : List (Char × Char))
  | openBrace
  | closeBrace
  | comma
  deriving DecidableEq, Repr

inductive BracketBody where
  | closed (ranges : List (Char × Char)) (rest : List Char)
  | unclosed
  | reversedRange

namespace IgnoreSign

/-- Read the inside of brackets. `first` tells that nothing was read yet, and `pending` that the
last character may start a range. A closing bracket or a minus that comes first is an ordinary
character, and so is a minus that comes last. -/
def bracketBody (first pending : Bool) (found : List (Char × Char)) : List Char → BracketBody
  | [] => .unclosed
  | c :: rest =>
    if c = ']' && !first then .closed (if pending then found ++ [('-', '-')] else found) rest
    else if pending then
      match found.getLast? with
      | some (low, _) =>
        if c < low then .reversedRange
        else bracketBody false false (found.dropLast ++ [(low, c)]) rest
      | none => .reversedRange
    else if c = '-' && !first then bracketBody false true found rest
    else bracketBody false false (found ++ [(c, c)]) rest

def brackets? (text : List Char) : Option (IgnoreSign × List Char) :=
  let (negated, body) := match text with
    | '!' :: body | '^' :: body => (true, body)
    | body => (false, body)
  match bracketBody true false [] body with
  | .closed ranges rest => some (.brackets negated ranges, rest)
  | .unclosed => some (.plain '[', text)
  | .reversedRange => none

def read (closable : Bool) : Text.Reader IgnoreSign
  | '?' :: rest => some (.question, rest)
  | '*' :: '*' :: rest => some (.twoStars, rest)
  | '*' :: rest => some (.star, rest)
  | '[' :: rest => if closable then brackets? rest else some (.plain '[', rest)
  | '\x7b' :: rest => some (.openBrace, rest)
  | '\x7d' :: rest => some (.closeBrace, rest)
  | ',' :: rest => some (.comma, rest)
  | '\\' :: c :: rest => some (.escaped c, rest)
  | '\\' :: [] => none
  | c :: rest => some (.plain c, rest)
  | [] => none

/-- Read the signs of a text, at most so many. After a bracket that is never closed every opening
bracket is an ordinary character. -/
def readAll (closable : Bool) : Nat → List Char → Option (List IgnoreSign)
  | _, [] => some []
  | 0, _ => none
  | count + 1, text => do
    let (sign, rest) ← read closable text
    pure (sign :: (← readAll (closable && sign ≠ .plain '[') count rest))

def ofText? (text : List Char) : Option (List IgnoreSign) :=
  readAll true text.length text

def lastChar : IgnoreSign → Char
  | plain c | escaped c => c
  | question => '?'
  | star | twoStars => '*'
  | brackets _ _ => ']'
  | openBrace => '\x7b'
  | closeBrace => '\x7d'
  | comma => ','

end IgnoreSign

namespace IgnoreToken

def separator : UInt8 := 0x2F

def literal (c : Char) : List IgnoreToken :=
  (String.utf8EncodeChar c).map byte

/-- The bytes between brackets. A character of several bytes stands there byte by byte, so a range
goes from the last byte of its first character to the first byte of its last one. -/
def byteRanges (range : Char × Char) : List (UInt8 × UInt8) :=
  let low := String.utf8EncodeChar range.1
  let high := String.utf8EncodeChar range.2
  let single (b : UInt8) := (b, b)
  if range.1 = range.2 then low.map single
  else low.dropLast.map single ++ low.getLast?.toList.zip high.head?.toList ++ high.tail.map single

def isSeparator (b : UInt8) : Bool :=
  b = separator

mutual

def mark (path : List UInt8) (marks : Text.Marks) : IgnoreToken → Text.Marks
  | byte c => marks.before (· = c) path
  | anyByte => marks.before (!isSeparator ·) path
  | anyRun => marks.afterRun (!isSeparator ·) path
  | bytes negated ranges =>
    marks.before (fun b => (ranges.any fun range => range.1 ≤ b && b ≤ range.2) ≠ negated) path
  | leading => marks.afterAny isSeparator path
  | trailing => marks.anywhere.before isSeparator path
  | between => (marks.afterAny isSeparator path).before isSeparator path
  | oneOf ways => markAny path marks ways

def markAll (path : List UInt8) (marks : Text.Marks) : List IgnoreToken → Text.Marks
  | [] => marks
  | token :: tokens => mark path (markAll path marks tokens) token

/-- Mark the suffixes of a path that start in one of the ways. Where there is no way at all, nothing
is asked of them. -/
def markAny (path : List UInt8) (marks : Text.Marks) : List (List IgnoreToken) → Text.Marks
  | [] => marks
  | [way] => markAll path marks way
  | way :: ways => (markAll path marks way).either (markAny path marks ways)

end

def accepts (tokens : List IgnoreToken) (path : List UInt8) : Bool :=
  (markAll path (Text.Marks.ofEnd path) tokens).first

end IgnoreToken

/-! ## The depth of patterns -/

namespace IgnoreToken

/-- How many parts a token has that stand beside each other. A brace without alternatives has
none. -/
def width : IgnoreToken → Nat
  | oneOf [] => 0
  | trailing => 2
  | _ => 1

def totalWidth (tokens : List IgnoreToken) : Nat :=
  tokens.foldl (fun total token => total + token.width) 0

mutual

/-- How deep the parts of a token are nested in each other: brackets, runs, braces, several
alternatives, and several parts of an alternative each make one more. -/
def depth : IgnoreToken → Nat
  | byte _ => 0
  | anyByte => 1
  | anyRun => 2
  | bytes _ ranges => if ranges.length = 1 then 1 else 2
  | leading => 4
  | trailing => 1
  | between => 4
  | oneOf ways =>
    if ways.isEmpty then 0 else (if ways.length = 1 then 1 else 2) + depthAny ways

def depthAll : List IgnoreToken → Nat
  | [] => 0
  | token :: tokens => Nat.max (depth token) (depthAll tokens)

def depthAny : List (List IgnoreToken) → Nat
  | [] => 0
  | way :: ways =>
    Nat.max ((if totalWidth way ≤ 1 then 0 else 1) + depthAll way) (depthAny ways)

end

end IgnoreToken

/-! ## From signs to tokens -/

/-- The alternatives of a brace, or the whole pattern, as far as they were read. The current one has
its last token in front. -/
structure IgnoreGroup where
  finished : List (List IgnoreToken) := []
  current : List IgnoreToken := []

namespace IgnoreGroup

def push (group : IgnoreGroup) (tokens : List IgnoreToken) : IgnoreGroup :=
  { group with current := tokens.reverse ++ group.current }

def next (group : IgnoreGroup) : IgnoreGroup :=
  { finished := group.finished ++ [group.current.reverse] }

def ways (group : IgnoreGroup) : List (List IgnoreToken) :=
  group.next.finished.filter fun way => IgnoreToken.totalWidth way ≠ 0

def pushComponents (group : IgnoreGroup) (last : Bool) : IgnoreGroup :=
  { group with current := match group.current with
    | .leading :: tokens => .leading :: tokens
    | .trailing :: tokens => .trailing :: tokens
    | tokens => (if last then .trailing else .between) :: tokens.tail }

end IgnoreGroup

/-- A pattern that is being read: the innermost brace, those around it, the last character, and
whether the next sign, a separator, is part of the stars before it. -/
structure IgnoreDraft where
  group : IgnoreGroup
  outer : List IgnoreGroup
  previous : Option Char
  skip : Bool

namespace IgnoreDraft

def empty : IgnoreDraft :=
  ⟨{}, [], none, false⟩

def startsComponent (draft : IgnoreDraft) : Bool :=
  draft.previous = some '/' ||
    !draft.outer.isEmpty && (draft.previous = some ',' || draft.previous = some '\x7b')

def twoStars (draft : IgnoreDraft) (next : Option IgnoreSign) : IgnoreDraft :=
  let asRuns := { draft with group := draft.group.push [.anyRun, .anyRun] }
  if draft.group.current.isEmpty then
    match next with
    | none => { draft with group := draft.group.push [.leading] }
    | some (.plain '/') => { draft with group := draft.group.push [.leading], skip := true }
    | some _ => asRuns
  else if !draft.startsComponent then asRuns
  else match next with
    | none => { draft with group := draft.group.pushComponents true }
    | some (.plain '/') => { draft with group := draft.group.pushComponents false, skip := true }
    | some .comma | some .closeBrace =>
      if draft.outer.isEmpty then asRuns
      else { draft with group := draft.group.pushComponents true }
    | some _ => asRuns

def step (draft : IgnoreDraft) (sign : IgnoreSign) (next : Option IgnoreSign) :
    Option IgnoreDraft :=
  let push (tokens : List IgnoreToken) := some { draft with group := draft.group.push tokens }
  match sign with
  | .plain c | .escaped c => push (IgnoreToken.literal c)
  | .question => push [.anyByte]
  | .star => push [.anyRun]
  | .brackets negated ranges => push [.bytes negated (ranges.flatMap IgnoreToken.byteRanges)]
  | .twoStars => some (draft.twoStars next)
  | .openBrace => some { draft with group := {}, outer := draft.group :: draft.outer }
  | .comma =>
    if draft.outer.isEmpty then push (IgnoreToken.literal ',')
    else some { draft with group := draft.group.next }
  | .closeBrace =>
    match draft.outer with
    | [] => none
    | group :: outer => some { draft with group := group.push [.oneOf draft.group.ways], outer }

def run (draft : IgnoreDraft) : List IgnoreSign → Option IgnoreDraft
  | [] => some draft
  | sign :: rest => do
    let previous := some sign.lastChar
    if draft.skip then run { draft with skip := false, previous } rest
    else
      let draft ← draft.step sign rest.head?
      run { draft with previous } rest

end IgnoreDraft

structure IgnorePattern where
  tokens : List IgnoreToken

namespace IgnorePattern

def parse? (text : List Char) : Option IgnorePattern := do
  let signs ← IgnoreSign.ofText? text
  let draft ← IgnoreDraft.empty.run signs
  if !draft.outer.isEmpty then none
  else match draft.group.current with
    | [.leading] => some ⟨[.leading, .anyRun]⟩
    | tokens => some ⟨tokens.reverse⟩

def isMatch (pattern : IgnorePattern) (path : List UInt8) : Bool :=
  IgnoreToken.accepts pattern.tokens path

def maxDepth : Nat := 250

def isUsable (pattern : IgnorePattern) : Bool :=
  1 + IgnoreToken.depthAll pattern.tokens ≤ maxDepth

end IgnorePattern

end HouseStyle
