import HouseStyle.Shell.Regex.Spelling

namespace HouseStyle.Shell.Regex

abbrev PerlParse := StateT Reader (Except String)

namespace PerlParse

def fail {α : Type} (message : String) : PerlParse α := fun _ => .error message

def peek : PerlParse (List Char) := do
  pure (← get).text

def skip (count : Nat) : PerlParse Unit :=
  modify fun reader => { reader with text := reader.text.drop count }

def letterSet? (c : Char) : Option CharSet :=
  let blank : CharSet := { ranges := [('\t', '\t'), (' ', ' '), ('\xa0', '\xa0')] }
  let vertical : CharSet := { ranges := [('\n', '\r'), ('\x85', '\x85')] }
  match c with
  | 'd' => some .digit
  | 'D' => some (CharSet.complement .digit)
  | 'w' => some .word
  | 'W' => some (CharSet.complement .word)
  | 's' => some .space
  | 'S' => some (CharSet.complement .space)
  | 'h' => some blank
  | 'H' => some blank.complement
  | 'v' => some vertical
  | 'V' => some vertical.complement
  | 'N' => some { ranges := [('\n', '\n')], negated := true }
  | _ => none

def letterChar? (c : Char) : Option Char :=
  [('n', '\n'), ('t', '\t'), ('r', '\r'), ('f', '\x0c'), ('a', '\x07'), ('e', '\x1b')].lookup c

def hexChar (text : List Char) : Char × List Char :=
  let inBraces := text.head? = some '\x7b'
  let body := if inBraces then text.tail else text
  let digits := (if inBraces then body else body.take 2).takeWhile Text.isHexDigit
  let rest := body.drop digits.length
  (Char.ofNat (Text.digitsValue 16 digits), if inBraces then rest.drop 1 else rest)

def edge? (c : Char) : Option Edge :=
  [('b', Edge.wordEdge), ('B', .noWordEdge), ('A', .textStart), ('Z', .textEnd),
    ('z', .textEnd)].lookup c

def ranges : Nat → Bool → List Char → Option (List (Char × Char) × List Char)
  | 0, _, _ | _ + 1, _, [] => none
  | steps + 1, first, text@(c :: rest) =>
    let and (new : List (Char × Char)) (after : List Char) :=
      (ranges steps false after).map fun (more, after) => (new ++ more, after)
    if c = ']' && !first then some ([], rest)
    else match symbol text with
      | some (new, after) => and new after
      | none =>
        let (low, after) := single text
        match after with
        | '-' :: next :: more =>
          if next = ']' then and [(low, low)] after
          else
            let (high, after) := single (next :: more)
            if high < low then none else and [(low, high)] after
        | after => and [(low, low)] after
where
  symbol (text : List Char) : Option (List (Char × Char) × List Char) :=
    match text with
    | '[' :: ':' :: rest =>
      let name := rest.takeWhile Char.isAlpha
      match rest.drop name.length, CharSet.classRanges? name with
      | ':' :: ']' :: after, some found => some (found, after)
      | _, _ => none
    | '\\' :: c :: rest =>
      match letterSet? c with
      | some set =>
        some (if set.negated then outside set.ranges else set.ranges, rest)
      | none => none
    | _ => none
  outside (ranges : List (Char × Char)) : List (Char × Char) :=
    ((List.range 256).map Char.ofNat).filterMap fun c =>
      if ranges.any fun (low, high) => low ≤ c && c ≤ high then none else some (c, c)
  single (text : List Char) : Char × List Char :=
    match text with
    | '\\' :: 'x' :: rest => hexChar rest
    | '\\' :: c :: rest => ((letterChar? c).getD c, rest)
    | c :: rest => (c, rest)
    | [] => ('\x00', [])

def bounds? (text : List Char) : Option (Nat × Option Nat × List Char) :=
  let low := text.takeWhile Char.isDigit
  let value (digits : List Char) := Text.digitsValue 10 digits
  match low, text.drop low.length with
  | [], _ => none
  | low, '\x7d' :: rest => some (value low, some (value low), rest)
  | low, ',' :: rest =>
    let high := rest.takeWhile Char.isDigit
    match rest.drop high.length with
    | '\x7d' :: rest => some (value low, if high = [] then none else some (value high), rest)
    | _ => none
  | _, _ => none

def repeats : Nat → Regex → PerlParse Regex
  | 0, body => pure body
  | steps + 1, body => do
    let range := match (← peek) with
      | '*' :: rest => some (0, none, rest)
      | '+' :: rest => some (1, none, rest)
      | '?' :: rest => some (0, some 1, rest)
      | '\x7b' :: rest => bounds? rest
      | _ => none
    match range with
    | none => pure body
    | some (least, most, rest) => do
      let lazy := rest.head? = some '?'
      let isDone := lazy || rest.head? = some '+'
      modify fun reader => { reader with text := if isDone then rest.tail else rest }
      repeats steps (.bounded body least most lazy)

mutual

def readChoice : Nat → PerlParse Regex
  | 0 => fail "regular expression is too large"
  | fuel + 1 => do
    let first ← readBranch fuel .empty
    match (← peek) with
    | '|' :: _ => do
      skip 1
      pure (.either first (← readChoice fuel))
    | _ => pure first

def readBranch : Nat → Regex → PerlParse Regex
  | 0, _ => fail "regular expression is too large"
  | fuel + 1, before => do
    match (← peek) with
    | [] | '|' :: _ | ')' :: _ => pure before
    | text => do
      let body ← readOne fuel
      let body ← repeats (text.length + 1) body
      readBranch fuel (match before with
        | .empty => body
        | before => .both before body)

def readOne : Nat → PerlParse Regex
  | 0 => fail "regular expression is too large"
  | fuel + 1 => do
    match (← peek) with
    | '(' :: '?' :: rest => do
      let kinds : List (List Char × (Regex → Regex)) :=
        [(":".toList, id), (">".toList, id), ("=".toList, .look false false),
          ("!".toList, .look false true), ("<=".toList, .look true false),
          ("<!".toList, .look true true)]
      match kinds.find? fun (mark, _) => mark.isPrefixOf rest with
      | some (mark, wrap) => do
        skip (2 + mark.length)
        let body ← readChoice fuel
        closeGroup
        pure (wrap body)
      | none => fail "unrecognized character after (? or (?-"
    | '(' :: _ => do
      skip 1
      let number := (← get).groups + 1
      modify fun reader => { reader with groups := number }
      let body ← readChoice fuel
      closeGroup
      pure (.group number body)
    | '[' :: rest => do
      let (negated, body) := match rest with
        | '^' :: body => (true, body)
        | body => (false, body)
      match ranges (body.length + 1) true body with
      | some (ranges, after) => do
        modify fun reader => { reader with text := after }
        pure (.one { ranges, negated })
      | none => fail "missing terminating ] for character class"
    | '.' :: _ => do
      skip 1
      pure (.one { ranges := [('\n', '\n')], negated := true })
    | '^' :: _ => do
      skip 1
      pure (.edge .lineStart)
    | '$' :: _ => do
      skip 1
      pure (.edge .lineEnd)
    | ['\\'] => fail "\\ at end of pattern"
    | '\\' :: 'x' :: rest => do
      let (c, rest) := hexChar rest
      modify fun reader => { reader with text := rest }
      pure (.char c)
    | '\\' :: 'K' :: _ => do
      skip 2
      pure .restart
    | '\\' :: 'Q' :: rest => do
      let (text, after) := quoted rest
      modify fun reader => { reader with text := after }
      pure (.ofPlain text)
    | '\\' :: c :: _ => do
      skip 2
      match letterSet? c, letterChar? c, edge? c with
      | some set, _, _ => pure (.one set)
      | _, some c, _ => pure (.char c)
      | _, _, some kind => pure (.edge kind)
      | _, _, _ =>
        if c.isDigit && c ≠ '0' then pure (.again (Text.digitsValue 10 [c])) else pure (.char c)
    | '*' :: _ | '+' :: _ | '?' :: _ => fail "quantifier does not follow a repeatable item"
    | c :: _ => do
      skip 1
      pure (.char c)
    | [] => pure .empty

def closeGroup : PerlParse Unit := do
  match (← peek) with
  | ')' :: _ => skip 1
  | _ => fail "missing closing parenthesis"

def quoted : List Char → List Char × List Char
  | [] => ([], [])
  | '\\' :: 'E' :: rest => ([], rest)
  | c :: rest =>
    let (text, after) := quoted rest
    (c :: text, after)

end

end PerlParse

def ofPerl (text : List Char) : Except String Regex := do
  let (regex, reader) ← (PerlParse.readChoice (4 * text.length + 8)).run { text }
  match reader.text with
  | [] => pure regex
  | _ => .error "unmatched closing parenthesis"

end HouseStyle.Shell.Regex
