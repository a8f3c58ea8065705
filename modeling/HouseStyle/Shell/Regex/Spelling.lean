import HouseStyle.Shell.Regex.Basic
import HouseStyle.Text.Digits

namespace HouseStyle.Shell

namespace Regex

inductive Fault where
  | invalid
  | collation
  | className
  | trailingBackslash
  | reference
  | brackets
  | parenthesis
  | closingParenthesis
  | brace
  | bounds
  | rangeEnd
  | nothingToRepeat
  | tooBig
  deriving DecidableEq, Repr

def Fault.message : Fault → String
  | invalid => "Invalid regular expression"
  | collation => "Invalid collation character"
  | className => "Invalid character class name"
  | trailingBackslash => "Trailing backslash"
  | reference => "Invalid back reference"
  | brackets => "Unmatched [, [^, [:, [., or [="
  | parenthesis => "Unmatched ( or \\("
  | closingParenthesis => "Unmatched ) or \\)"
  | brace => "Unmatched \\\x7b"
  | bounds => "Invalid content of \\\x7b\\\x7d"
  | rangeEnd => "Invalid range end"
  | nothingToRepeat => "Invalid preceding regular expression"
  | tooBig => "Regular expression too big"

structure Spelling where
  extended : Bool := false
  strictRepeats : Bool := false
  strictBounds : Bool := false
  looseBraces : Bool := false
  looseParentheses : Bool := false
  emptyRanges : Bool := false
  deriving DecidableEq, Repr

inductive Sign where
  | char (c : Char)
  | openGroup
  | closeGroup
  | bracket
  | reference (number : Nat)
  | openBounds
  | closeBounds
  | star
  | plus
  | question
  | edge (edge : Edge)
  | any
  | set (set : CharSet)
  | bar
  | backslash
  | ended
  deriving DecidableEq, Repr

def Sign.asChar : Sign → Char
  | char c => c
  | openGroup => '('
  | closeGroup => ')'
  | openBounds => '\x7b'
  | closeBounds => '\x7d'
  | star => '*'
  | plus => '+'
  | question => '?'
  | bar => '|'
  | _ => '\\'

def Spelling.escaped (spelling : Spelling) (c : Char) : Sign :=
  let basic (sign : Sign) : Sign := if spelling.extended then .char c else sign
  match c with
  | '|' => basic .bar
  | '(' => basic .openGroup
  | ')' => basic .closeGroup
  | '+' => basic .plus
  | '?' => basic .question
  | '\x7b' => basic .openBounds
  | '\x7d' => basic .closeBounds
  | '<' => .edge .wordStart
  | '>' => .edge .wordEnd
  | 'b' => .edge .wordEdge
  | 'B' => .edge .noWordEdge
  | '\x60' => .edge .textStart
  | '\'' => .edge .textEnd
  | 'w' => .set .word
  | 'W' => .set (CharSet.complement .word)
  | 's' => .set .space
  | 'S' => .set (CharSet.complement .space)
  | c => if c.isDigit && c ≠ '0' then .reference (Text.digitsValue 10 [c]) else .char c

/-- The sign for a character that stands alone. What follows it tells whether a dollar sign is the
end of a line; `caret` tells whether a circumflex is the start of one. -/
def Spelling.plain (spelling : Spelling) (caret : Bool) (c : Char) (rest : List Char) : Sign :=
  let extended (sign : Sign) : Sign := if spelling.extended then sign else .char c
  match c with
  | '|' => extended .bar
  | '(' => extended .openGroup
  | ')' => extended .closeGroup
  | '+' => extended .plus
  | '?' => extended .question
  | '\x7b' => extended .openBounds
  | '\x7d' => extended .closeBounds
  | '*' => .star
  | '[' => .bracket
  | '.' => .any
  | '^' => if spelling.extended || caret then .edge .lineStart else .char c
  | '$' =>
    let atEnd := match rest with
      | [] => true
      | '\\' :: ')' :: _ | '\\' :: '|' :: _ => true
      | _ => false
    if spelling.extended || atEnd then .edge .lineEnd else .char c
  | c => .char c

structure Reader where
  text : List Char
  sign : Sign := .ended
  groups : Nat := 0
  complete : List Nat := []

abbrev Parse := StateT Reader (Except Fault)

def fault {α : Type} (what : Fault) : Parse α := fun _ => .error what

def fetch (spelling : Spelling) (caret : Bool) : Parse Unit :=
  modify fun reader =>
    match reader.text with
    | [] => { reader with sign := .ended }
    | ['\\'] => { reader with sign := .backslash, text := [] }
    | '\\' :: c :: rest => { reader with sign := spelling.escaped c, text := rest }
    | c :: rest => { reader with sign := spelling.plain caret c rest, text := rest }

def currentSign : Parse Sign := do
  pure (← get).sign

/-! ## Brackets -/

inductive Element where
  | char (c : Char)
  | className (name : List Char)
  | equivalent (name : List Char)
  | collating (name : List Char)

def symbolName (mark : Char) : Nat → List Char → Option (List Char × List Char)
  | 0, _ => none
  | _ + 1, [] | _ + 1, [_] => none
  | steps + 1, c :: next :: rest =>
    if c = mark && next = ']' then some ([], rest)
    else (symbolName mark steps (next :: rest)).map fun (name, rest) => (c :: name, rest)

def element : List Char → Except Fault (Element × List Char)
  | '[' :: mark :: rest =>
    if mark = '.' || mark = '=' || mark = ':' && rest ≠ [] then
      match symbolName mark 33 rest with
      | none => .error .brackets
      | some (name, rest) =>
        .ok (if mark = ':' then .className name
          else if mark = '=' then .equivalent name else .collating name, rest)
    else .ok (.char '[', mark :: rest)
  | c :: rest => .ok (.char c, rest)
  | [] => .error .brackets

def Element.char? : Element → Except Fault Char
  | char c => .ok c
  | collating [c] => .ok c
  | collating _ => .error .collation
  | className _ | equivalent _ => .error .rangeEnd

def Element.ranges : Element → Except Fault (List (Char × Char))
  | char c => .ok [(c, c)]
  | equivalent [c] | collating [c] => .ok [(c, c)]
  | equivalent _ | collating _ => .error .collation
  | className name =>
    match CharSet.classRanges? name with
    | some ranges => .ok ranges
    | none => .error .className

def Element.canStartRange : Element → Bool
  | char _ | collating _ => true
  | className _ | equivalent _ => false

def bracketRanges (emptyRanges : Bool) :
    Nat → Bool → List Char → Except Fault (List (Char × Char) × List Char)
  | 0, _, _ => .error .brackets
  | steps + 1, first, text => do
    match first, text with
    | false, ']' :: rest => pure ([], rest)
    | _, _ => do
      -- Inside, a dash is the end of the list, or it stands between the ends of a range.
      if !first && text.head? = some '-' && text.tail.head? ≠ some ']' then throw .rangeEnd
      let (start, rest) ← element text
      if rest = [] then throw .brackets
      match rest with
      | '-' :: after =>
        if start.canStartRange && after = [] then throw .brackets
        else if start.canStartRange && after.head? ≠ some ']' then do
          let (stop, rest) ← element after
          let low ← start.char?
          let high ← stop.char?
          if high < low && !emptyRanges then throw .rangeEnd
          let (more, rest) ← bracketRanges emptyRanges steps false rest
          pure (if high < low then (more, rest) else ((low, high) :: more, rest))
        else do
          let ranges ← start.ranges
          let (more, rest) ← bracketRanges emptyRanges steps false rest
          pure (ranges ++ more, rest)
      | rest => do
        let ranges ← start.ranges
        let (more, rest) ← bracketRanges emptyRanges steps false rest
        pure (ranges ++ more, rest)

def bracketSet (emptyRanges : Bool) (text : List Char) : Except Fault (CharSet × List Char) := do
  let (negated, body) := match text with
    | '^' :: body => (true, body)
    | body => (false, body)
  if body = [] then throw .invalid
  let (ranges, rest) ← bracketRanges emptyRanges (body.length + 1) true body
  pure ({ ranges, negated }, rest)

/-! ## Repetitions -/

def maxRepeats : Nat := 0x7fff

inductive BoundPart where
  | nothing
  | number (n : Nat)
  | senseless

def BoundPart.add (part : BoundPart) (sign : Sign) : BoundPart :=
  match part, sign with
  | .senseless, _ => .senseless
  | .nothing, .char c => if c.isDigit then .number (Text.digitsValue 10 [c]) else .senseless
  | .number n, .char c =>
    if c.isDigit then .number (Nat.min (maxRepeats + 1) (n * 10 + Text.digitsValue 10 [c]))
    else .senseless
  | _, _ => .senseless

def boundPart (spelling : Spelling) : Nat → BoundPart → Parse BoundPart
  | 0, _ => pure .senseless
  | steps + 1, part => do
    fetch spelling false
    match (← currentSign) with
    | .ended => pure .senseless
    | .closeBounds | .char ',' => pure part
    | sign => boundPart spelling steps (part.add sign)

def bounds (spelling : Spelling) : Parse (Option (Nat × Option Nat)) := do
  let before ← get
  let steps := before.text.length + 1
  let loose : Parse (Option (Nat × Option Nat)) := do
    if spelling.looseBraces then
      set { before with sign := .char '\x7b' }
      pure none
    else if (← currentSign) = .ended then fault .brace
    else fault .bounds
  let low ← boundPart spelling steps .nothing
  let isComma : Bool := (← currentSign) = .char ','
  match low, isComma with
  | .nothing, false => if (← currentSign) = .ended then loose else fault .bounds
  | .senseless, _ => loose
  | low, _ => do
    let least := match low with
      | .number n => n
      | _ => 0
    let high ← if isComma then boundPart spelling steps .nothing else pure (.number least)
    match high with
    | .senseless => loose
    | high => do
      let most := match high with
        | .number n => some n
        | _ => none
      if most.any (· < least) || (← currentSign) ≠ .closeBounds then fault .bounds
      else if maxRepeats < most.getD least then fault .tooBig
      else do
        fetch spelling false
        pure (some (least, most))

def Sign.repeats : Sign → Bool
  | star | plus | question | openBounds => true
  | _ => false

def repeats (spelling : Spelling) : Nat → Regex → Parse Regex
  | 0, body => pure body
  | steps + 1, body => do
    let sign ← currentSign
    if !sign.repeats then pure body
    else do
      let range ← match sign with
        | .openBounds => bounds spelling
        | sign => do
          fetch spelling false
          pure (some (if sign = .plus then (1, none) else if sign = .star then (0, none)
            else (0, some 1)))
      match range with
      | none => pure body
      | some (least, most) => do
        let next ← currentSign
        if spelling.strictBounds && (next = .star || next = .openBounds) then
          fault .nothingToRepeat
        repeats spelling steps (if most = some 0 then .empty else .bounded body least most false)

/-! ## Expressions -/

mutual

def readChoice (spelling : Spelling) : Nat → Bool → Parse Regex
  | 0, _ => fault .invalid
  | fuel + 1, inGroup => do
    let complete := (← get).complete
    let first ← readBranch spelling fuel inGroup .empty
    if (← currentSign) = .bar then
      -- What one alternative completes is not complete in another.
      let after := (← get).complete
      modify fun reader => { reader with complete }
      fetch spelling true
      let second ← readChoice spelling fuel inGroup
      modify fun reader => { reader with complete := reader.complete ++ after }
      pure (.either first second)
    else pure first

def readBranch (spelling : Spelling) : Nat → Bool → Regex → Parse Regex
  | 0, _, _ => fault .invalid
  | fuel + 1, inGroup, before => do
    let sign ← currentSign
    if sign = .bar || sign = .ended || inGroup && sign = .closeGroup then pure before
    else
      let body ← readOne spelling fuel
      readBranch spelling fuel inGroup (match before with
        | .empty => body
        | before => .both before body)

def readOne (spelling : Spelling) : Nat → Parse Regex
  | 0 => fault .invalid
  | fuel + 1 => do
    let finish (body : Regex) : Parse Regex := do
      repeats spelling ((← get).text.length + 1) body
    let literal (c : Char) : Parse Regex := do
      fetch spelling false
      finish (.char c)
    let sign ← currentSign
    match sign with
    | .char c => literal c
    | .any => do
      fetch spelling false
      finish (.one .all)
    | .set chars => do
      fetch spelling false
      finish (.one chars)
    | .bracket => do
      match bracketSet spelling.emptyRanges (← get).text with
      | .error what => fault what
      | .ok (chars, rest) => do
        modify fun reader => { reader with text := rest }
        fetch spelling false
        finish (.one chars)
    | .reference number => do
      if !(← get).complete.contains number then fault .reference
      fetch spelling false
      finish (.again number)
    | .edge kind => do
      fetch spelling false
      pure (.edge kind)
    | .openGroup => do
      let number := (← get).groups + 1
      modify fun reader => { reader with groups := number }
      fetch spelling true
      let body ← readChoice spelling fuel true
      if (← currentSign) ≠ .closeGroup then fault .parenthesis
      modify fun reader => { reader with complete := number :: reader.complete }
      fetch spelling false
      finish (.group number body)
    | .closeGroup =>
      if spelling.looseParentheses then literal ')' else fault .closingParenthesis
    | .backslash => fault .trailingBackslash
    | .star | .plus | .question | .openBounds => do
      if sign = .openBounds && spelling.strictBounds then fault .nothingToRepeat
      else if spelling.strictRepeats then fault .nothingToRepeat
      else if spelling.extended then do
        if sign = .openBounds then
          let _ ← bounds spelling
        else fetch spelling false
        match (← currentSign) with
        | .bar | .ended => pure .empty
        | _ => readOne spelling fuel
      else literal sign.asChar
    | .closeBounds => literal sign.asChar
    | .bar | .ended => pure .empty

end

def ofText (spelling : Spelling) (text : List Char) : Except Fault Regex :=
  let read : Parse Regex := do
    fetch spelling true
    readChoice spelling (4 * text.length + 8) false
  (read.run { text }).map (·.1)

end Regex

end HouseStyle.Shell
