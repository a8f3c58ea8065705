import HouseStyle.Shell.Fields
import HouseStyle.Shell.Utility.Basic

namespace HouseStyle.Shell

namespace CharList

inductive Part where
  | one (c : Char)
  | range (low high : Char)
  | ofClass (name : String)
  | same (c : Char)
  | repeated (c : Char) (count : Nat)
  deriving DecidableEq, Repr

inductive Fault where
  | noClassName
  | noSameChar
  | noClass (name : List Char)
  | severalSame (chars : List Char)
  | badCount (digits : List Char)
  | reversedRange (low high : Char)
  | repeatedInFirst
  | repeatedTwice
  | sameInSecond
  | classInSecond
  | misaligned
  | emptySecond
  | endsWithClass
  | severalTargets
  | repeatedWithoutTarget
  deriving DecidableEq, Repr

def visibleText (text : List Char) : List Char :=
  text.flatMap fun c =>
    if c = '\\' then ['\\', '\\'] else if Quotation.isVisible c then [c] else Quotation.escape c

def visibleChar (c : Char) : List Char :=
  if Quotation.isVisible c then [c] else '\\' :: Quotation.octalDigits c.toNat

namespace Fault

def message : Fault → List Char
  | noClassName => "missing character class name '[::]'".toList
  | noSameChar => "missing equivalence class character '[==]'".toList
  | noClass name =>
    "invalid character class ".toList ++ Quotation.withEscapes (visibleText name)
  | severalSame chars =>
    visibleText chars ++ ": equivalence class operand must be a single character".toList
  | badCount digits =>
    "invalid repeat count ".toList ++ Quotation.withEscapes (visibleText digits) ++
      " in [c*n] construct".toList
  | reversedRange low high =>
    "range-endpoints of '".toList ++ visibleChar low ++ ['-'] ++ visibleChar high ++
      "' are in reverse collating sequence order".toList
  | repeatedInFirst => "the [c*] repeat construct may not appear in string1".toList
  | repeatedTwice => "only one [c*] repeat construct may appear in string2".toList
  | sameInSecond => "[=c=] expressions may not appear in string2 when translating".toList
  | classInSecond =>
    ("when translating, the only character classes that may appear in\n" ++
      "string2 are 'upper' and 'lower'").toList
  | misaligned => "misaligned [:upper:] and/or [:lower:] construct".toList
  | emptySecond => "when not truncating set1, string2 must be non-empty".toList
  | endsWithClass =>
    ("when translating with string1 longer than string2,\n" ++
      "the latter string must not end with a character class").toList
  | severalTargets =>
    ("when translating with complemented character classes,\n" ++
      "string2 must map all characters in the domain to one").toList
  | repeatedWithoutTarget =>
    "the [c*] construct may appear in string2 only when translating".toList

end Fault

/-! ## Reading -/

/-- Carry out escapes. Gives the characters, each with whether it was escaped, with the last one
first, and what is to be warned of. -/
def unescape : Nat → List Char → List (Char × Bool) → List String → List (Char × Bool) × List String
  | 0, _, chars, warnings => (chars.reverse, warnings.reverse)
  | _ + 1, [], chars, warnings => (chars.reverse, warnings.reverse)
  | steps + 1, ['\\'], chars, warnings =>
    unescape steps [] (('\\', false) :: chars)
      ("warning: an unescaped backslash at end of string is not portable" :: warnings)
  | steps + 1, '\\' :: c :: rest, chars, warnings =>
    let digits := ((c :: rest).take 3).takeWhile Arithmetic.isOctal
    if digits ≠ [] then
      let isLarge := 255 < Text.digitsValue 8 digits
      let used := if isLarge then digits.take 2 else digits
      let warning := "warning: the ambiguous octal escape \\" ++ String.ofList digits ++
        " is being\n\tinterpreted as the 2-byte sequence \\0" ++ String.ofList (digits.take 2) ++
        ", " ++ String.ofList (digits.drop 2)
      unescape steps ((c :: rest).drop used.length)
        ((Char.ofNat (Text.digitsValue 8 used), true) :: chars)
        (if isLarge then warning :: warnings else warnings)
    else
      let named := [('n', '\n'), ('t', '\t'), ('r', '\r'), ('a', '\x07'), ('b', '\x08'),
        ('f', '\x0c'), ('v', '\x0b')]
      unescape steps rest (((named.lookup c).getD c, true) :: chars) warnings
  | steps + 1, c :: rest, chars, warnings => unescape steps rest ((c, false) :: chars) warnings

def untilClosed (mark : Char) : List (Char × Bool) → List Char → Option (List Char ×
    List (Char × Bool))
  | [], _ => none
  | (c, isEscaped) :: rest, before =>
    if c = mark && !isEscaped && rest.head? = some (']', false) then
      some (before.reverse, rest.tail)
    else untilClosed mark rest (c :: before)

def startsWithCount : List (Char × Bool) → Bool
  | ('*', false) :: rest => (rest.dropWhile (·.1.isDigit)).head? = some (']', false)
  | _ => false

def repetition? (chars : List (Char × Bool)) :
    Except Fault (Option (Part × List (Char × Bool))) :=
  match chars with
  | (c, _) :: ('*', false) :: rest =>
    let inside := rest.takeWhile fun (c, isEscaped) => !isEscaped && c ≠ ']'
    match rest.drop inside.length with
    | (']', false) :: after =>
      let digits := inside.map (·.1)
      let base := if digits.head? = some '0' then 8 else 10
      let isDigit (c : Char) : Bool := if base = 8 then Arithmetic.isOctal c else c.isDigit
      if digits = [] || digits.all isDigit then
        .ok (some (.repeated c (Text.digitsValue base digits), after))
      else .error (.badCount digits)
    | _ => .ok none
  | _ => .ok none

def bracketed? (mark : Char) (rest : List (Char × Bool)) :
    Except Fault (Option (Part × List (Char × Bool))) :=
  match untilClosed mark rest [] with
  | none => .ok none
  | some (inside, after) =>
    if mark = ':' then
      if inside = [] then .error .noClassName
      else if (GlobItem.class? inside).isSome then .ok (some (.ofClass (String.ofList inside), after))
      else if startsWithCount rest then .ok none
      else .error (.noClass inside)
    else match inside with
      | [] => .error .noSameChar
      | [c] => .ok (some (.same c, after))
      | _ => if startsWithCount rest then .ok none else .error (.severalSame inside)

def parts : Nat → List (Char × Bool) → Except Fault (List Part)
  | 0, _ => .ok []
  | steps + 1, chars =>
    match chars with
    | [] => .ok []
    | [(c, _)] => .ok [.one c]
    | [(c, _), (d, _)] => .ok [.one c, .one d]
    | (c, isEscaped) :: rest => do
      let isBracket := c = '[' && !isEscaped
      let named ← match isBracket, rest with
        | true, (':', false) :: inside => bracketed? ':' inside
        | true, ('=', false) :: inside => bracketed? '=' inside
        | _, _ => pure none
      let found ← if named.isSome || !isBracket then pure named else repetition? rest
      match found, rest with
      | some (part, rest), _ => do
        pure (part :: (← parts steps rest))
      | none, ('-', false) :: (high, _) :: rest => do
        if high < c then throw (.reversedRange c high)
        pure (.range c high :: (← parts steps rest))
      | none, rest => do
        pure (.one c :: (← parts steps rest))

/-! ## Members -/

def allChars : List Char :=
  (List.range 256).map Char.ofNat

def maxCount : Nat := 0x10000

namespace Part

def chars : Part → List Char
  | one c | same c => [c]
  | range low high =>
    (List.range (high.toNat - low.toNat + 1)).map fun step => Char.ofNat (low.toNat + step)
  | ofClass name =>
    match GlobItem.class? name.toList with
    | some test => allChars.filter test
    | none => []
  | repeated c count => List.replicate (Nat.min count maxCount) c

def case? : Part → Option Bool
  | ofClass "upper" => some true
  | ofClass "lower" => some false
  | _ => none

def isClass : Part → Bool
  | ofClass _ => true
  | _ => false

def isSame : Part → Bool
  | same _ => true
  | _ => false

def isOpen : Part → Bool
  | repeated _ 0 => true
  | _ => false

def last? : Part → Option Char
  | one c | same c | repeated c _ => some c
  | range _ high => some high
  | ofClass _ => none

end Part

def size (parts : List Part) : Nat :=
  parts.foldl (fun total part => total + part.chars.length) 0

structure Cursor where
  current : List Char := []
  case? : Option Bool := none
  rest : List Part

namespace Cursor

def load : List Part → Cursor
  | [] => { rest := [] }
  | part :: rest =>
    match part.chars with
    | [] => load rest
    | chars => { current := chars, case? := part.case?, rest }

def next (cursor : Cursor) : Option (Char × Option Bool) × Cursor :=
  let cursor := if cursor.current = [] then load cursor.rest else cursor
  match cursor.current with
  | c :: current => (some (c, cursor.case?), { cursor with current })
  | [] => (none, cursor)

def skip (cursor : Cursor) : Cursor :=
  { rest := cursor.rest }

end Cursor

/-- Go through two lists side by side. A class of letters in the second one must stand across from
one in the first. Gives how many classes do. -/
def caseClasses : Nat → Cursor → Cursor → Nat → Except Fault Nat
  | 0, _, _, count => .ok count
  | steps + 1, first, second, count =>
    let isNew := first.current = []
    let startsNew := second.current = []
    match first.next, second.next with
    | (c, first), (d, second) =>
      let firstCase := c.bind (·.2)
      let secondCase := d.bind (·.2)
      if startsNew && secondCase.isSome && !(isNew && firstCase.isSome) then .error .misaligned
      else if c.isNone || d.isNone then .ok count
      else if secondCase.isSome then caseClasses steps first.skip second.skip (count + 1)
      else caseClasses steps first second count

def mapping : Nat → Cursor → Cursor → List (Char × Char) → List (Char × Char)
  | 0, _, _, found => found
  | steps + 1, first, second, found =>
    match first.next, second.next with
    | (some (c, firstCase), first), (some (d, secondCase), second) =>
      let new := match firstCase, secondCase with
        | some false, some true => (allChars.filter Char.isLower).map fun c => (c, c.toUpper)
        | some true, some false => (allChars.filter Char.isUpper).map fun c => (c, c.toLower)
        | _, _ => [(c, d)]
      if secondCase.isSome then mapping steps first.skip second.skip (new ++ found)
      else mapping steps first second (new ++ found)
    | _, _ => found

/-! ## Two lists -/

def closed (length : Nat) (second : List Part) : List Part :=
  let missing := length - size second
  second.map fun
    | .repeated c 0 => .repeated c missing
    | part => part

structure Purpose where
  complements : Bool
  truncates : Bool
  translates : Bool

def fitted (purpose : Purpose) (first second : List Part) : Except Fault (List Part) := do
  let firstChars := first.flatMap Part.chars
  let length := if purpose.complements then (allChars.filter (!firstChars.contains ·)).length
    else firstChars.length
  if first.any Part.isOpen then throw .repeatedInFirst
  let opens := second.countP Part.isOpen
  let second := if size second ≤ length && opens = 1 then closed length second else second
  if opens > 1 then throw .repeatedTwice
  if !purpose.translates then
    if opens > 0 then throw .repeatedWithoutTarget
    pure second
  else
    if second.any Part.isSame then throw .sameInSecond
    if second.any fun part => part.isClass && part.case?.isNone then throw .classInSecond
    let steps := firstChars.length + size second + 2
    let classes ← if purpose.complements || !second.any Part.isClass then pure 0
      else caseClasses steps { rest := first } { rest := second } 0
    let firstLength := length - 25 * classes
    let secondLength := size second - 25 * classes
    let second ← if secondLength < firstLength && !purpose.truncates then
        match second.getLast? with
        | none => throw .emptySecond
        | some part =>
          match part.last? with
          | none => throw .endsWithClass
          | some c => pure (second ++ [Part.repeated c (firstLength - secondLength)])
      else pure second
    let targets := second.flatMap Part.chars
    if purpose.complements && first.any Part.isClass &&
        !(targets.length = length && targets.all (some · = targets.head?)) then
      throw .severalTargets
    pure second

def table (purpose : Purpose) (first second : List Part) : Array Char :=
  let firstChars := first.flatMap Part.chars
  let secondChars := second.flatMap Part.chars
  let pairs := if purpose.complements then
      ((allChars.filter (!firstChars.contains ·)).zip secondChars).reverse
    else mapping (firstChars.length + secondChars.length + 1) { rest := first } { rest := second } []
  (allChars.map fun c => (pairs.lookup c).getD c).toArray

def members (complements : Bool) (parts : List Part) : Array Bool :=
  let chars := parts.flatMap Part.chars
  (allChars.map fun c => chars.contains c != complements).toArray

def isIn (set : Array Bool) (c : Char) : Bool :=
  set[c.toNat]?.getD false

def squeeze (set : Array Bool) (text : List Char) : List Char :=
  (text.foldl (fun kept c =>
    if kept.head? = some c && isIn set c then kept else c :: kept) []).reverse

end CharList

namespace Exec

open CharList

def charParts (text : List Char) : Exec (Except Fault (List Part)) := do
  let (chars, warnings) := unescape (text.length + 1) text [] []
  warnings.forM fun warning => programError warning.toList
  pure (parts (chars.length + 1) chars)

def tr (words : List (List Char)) : Exec Nat :=
  let forms := OptionForm.named [('c', "complement"), ('d', "delete"), ('s', "squeeze-repeats"),
    ('t', "truncate-set1")] ++ OptionForm.letters "C"
  withOptions 1 .ordered forms words (fun _ => pure (.ok ())) fun _ arguments => do
    let deletes := arguments.has 'd'
    let squeezes := arguments.has 's'
    let wanted := if deletes != squeezes then 1 else 2
    match arguments.operands with
    | [] => missingOperand
    | [only] =>
      if wanted = 2 then do
        programError ("missing operand after ".toList ++ quoted only)
        report (if deletes then
            "Two strings must be given when both deleting and squeezing repeats.\n"
          else "Two strings must be given when translating.\n").toList
        hint
        pure 1
      else run arguments only none
    | [first, second] =>
      if deletes && !squeezes then do
        programError ("extra operand ".toList ++ quoted second)
        report "Only one string may be given when deleting without squeezing repeats.\n".toList
        hint
        pure 1
      else run arguments first (some second)
    | _ :: second :: third :: _ =>
      let extra := if deletes && !squeezes then second else third
      misuse ("extra operand ".toList ++ quoted extra)
where
  run (arguments : Arguments) (first : List Char) (second : Option (List Char)) : Exec Nat := do
    let deletes := arguments.has 'd'
    let purpose : Purpose :=
      { complements := arguments.hasAny "cC"
        truncates := arguments.has 't'
        translates := second.isSome && !deletes }
    let firstParts ← charParts first
    let secondParts ← charParts (second.getD [])
    let lists := do
      let firstParts ← firstParts
      let secondParts ← secondParts
      let purpose := if second.isNone then { purpose with translates := false } else purpose
      pure (firstParts, ← fitted purpose firstParts secondParts)
    match lists with
    | .error fault => do
      programError fault.message
      pure 1
    | .ok (firstParts, secondParts) =>
      match (← readInput List.length 0) with
      | .error reason => do
        programError ("read error: ".toList ++ reason.toList)
        pure 1
      | .ok text => do
        let chosen := members purpose.complements firstParts
        let replacements := table purpose firstParts secondParts
        let text := if deletes then text.filter (!isIn chosen ·)
          else if purpose.translates then text.map fun c => replacements[c.toNat]?.getD c
          else text
        let repeated := if second.isSome then members false secondParts else chosen
        put (if arguments.has 's' then squeeze repeated text else text)
        pure 0

end Exec

end HouseStyle.Shell
