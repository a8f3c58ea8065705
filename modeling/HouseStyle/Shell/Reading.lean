import HouseStyle.Shell.Command
import HouseStyle.Text.Digits

/-!
# Reading commands

Commands are read from a text one complete line at a time: a line is complete when nothing in it is
left open. A text in the script for a redirection follows the line on which it is asked for. A
backslash at the end of a line joins it with the next one, everywhere but in single quotes.
-/

namespace HouseStyle.Shell

structure ReadError where
  line : Nat
  message : String
  deriving DecidableEq, Repr

inductive Keyword where
  | bang
  | caseOf
  | doBody
  | done
  | elifThen
  | elseThen
  | esac
  | fi
  | forEach
  | ifTest
  | inList
  | thenBody
  | untilTest
  | whileTest
  | openBrace
  | closeBrace
  deriving DecidableEq, Repr

namespace Keyword

def table : List (Keyword × String) :=
  [(bang, "!"), (caseOf, "case"), (doBody, "do"), (done, "done"), (elifThen, "elif"),
    (elseThen, "else"), (esac, "esac"), (fi, "fi"), (forEach, "for"), (ifTest, "if"),
    (inList, "in"), (thenBody, "then"), (untilTest, "until"), (whileTest, "while"),
    (openBrace, "\x7b"), (closeBrace, "\x7d")]

def text (keyword : Keyword) : String :=
  (table.lookup keyword).getD ""

def find? (word : List Char) : Option Keyword :=
  (table.find? fun entry => entry.2.toList = word).map (·.1)

def endsList : Keyword → Bool
  | doBody | done | elifThen | elseThen | esac | fi | thenBody | closeBrace => true
  | _ => false

end Keyword

inductive Arrow where
  | input
  | output
  | clobber
  | append
  | both
  | copyInput
  | copyOutput
  | document (withoutTabs : Bool)
  deriving DecidableEq, Repr

inductive Token where
  | ended
  | newline
  | semicolon
  | ampersand
  | andIf
  | orIf
  | pipe
  | openParenthesis
  | closeParenthesis
  | endCase
  | arrow (stream : Option Nat) (arrow : Arrow)
  | word (word : Word) (quoted : Bool)
  | keyword (keyword : Keyword)

namespace Token

def inQuotes (text : String) : String :=
  "\"" ++ text ++ "\""

def name : Token → String
  | ended => "end of file"
  | newline => "newline"
  | semicolon => inQuotes ";"
  | ampersand => inQuotes "&"
  | andIf => inQuotes "&&"
  | orIf => inQuotes "||"
  | pipe => inQuotes "|"
  | openParenthesis => inQuotes "("
  | closeParenthesis => inQuotes ")"
  | endCase => inQuotes ";;"
  | arrow _ _ => "redirection"
  | word _ _ => "word"
  | keyword known => inQuotes known.text

def endsList : Token → Bool
  | ended | closeParenthesis | endCase => true
  | keyword known => known.endsList
  | _ => false

def isKeyword (wanted : Keyword) : Token → Bool
  | keyword known => known = wanted
  | _ => false

end Token

structure AwaitedDocument where
  number : Nat
  ending : List Char
  literal : Bool
  withoutTabs : Bool

structure OpenAlias where
  name : List Char
  behind : Nat
  goesOn : Bool

structure ReadState where
  text : List Char
  line : Nat := 1
  pushed : Option Token := none
  aliases : List (List Char × List Char) := []
  openAliases : List OpenAlias := []
  awaited : List AwaitedDocument := []
  documents : List (Nat × Word) := []
  nextDocument : Nat := 0

abbrev Reading := StateT ReadState (Except ReadError)

namespace Reading

def fail {α : Type} (message : String) : Reading α := fun state =>
  .error ⟨state.line, "Syntax error: " ++ message⟩

def unexpected {α : Type} (token : Token) : Reading α :=
  fail (token.name ++ " unexpected")

def expecting {α : Type} (token : Token) (wanted : String) : Reading α :=
  fail (token.name ++ " unexpected (expecting " ++ wanted ++ ")")

def joined : Nat → List Char → Nat × List Char
  | line, '\\' :: '\n' :: rest => joined (line + 1) rest
  | line, text => (line, text)

def joinLines : Reading Unit :=
  modify fun state =>
    let (line, text) := joined state.line state.text
    { state with line, text }

def rawNext : Reading (Option Char) := do
  let state ← get
  match state.text with
  | [] => pure none
  | c :: rest =>
    set { state with text := rest, line := if c = '\n' then state.line + 1 else state.line }
    pure (some c)

def peek : Reading (Option Char) := do
  joinLines
  pure (← get).text.head?

def next : Reading (Option Char) := do
  joinLines
  rawNext

def skip : Reading Unit := do
  let _ ← rawNext

def nextIs (c : Char) : Reading Bool := do
  if (← peek) = some c then
    skip
    pure true
  else pure false

def push (token : Token) : Reading Unit :=
  modify fun state => { state with pushed := some token }

/-- Forget the aliases whose texts are passed. Gives whether the next word can be an alias for that
reason. -/
def closeAliases : Reading Bool := do
  let state ← get
  if state.openAliases.isEmpty then pure false
  else
    let left := (state.text.dropWhile fun c => c = ' ' || c = '\t').length
    let (passed, others) := state.openAliases.partition (left ≤ ·.behind)
    set { state with openAliases := others }
    pure (passed.any (·.goesOn))

/-- Put the text of an alias in front of what is left to read, unless that is just being read. Gives
whether there is such an alias. -/
def openAlias (name : Option (List Char)) : Reading Bool := do
  let state ← get
  match name.bind fun name => (state.aliases.lookup name).map (name, ·) with
  | none => pure false
  | some (name, value) =>
    if state.openAliases.any (·.name = name) then pure false
    else
      let goesOn := value.getLast?.any fun c => c = ' ' || c = '\t'
      let opened := { name, behind := state.text.length, goesOn }
      set { state with text := value ++ state.text, openAliases := opened :: state.openAliases }
      pure true

end Reading

/-! ## Words -/

inductive Quoting where
  | plain
  | brace
  | double
  | doubleBrace
  | document
  | arithmetic (depth : Nat)
  deriving DecidableEq, Repr

namespace Quoting

def isQuoted : Quoting → Bool
  | plain | brace => false
  | _ => true

def escapes (quoting : Quoting) (c : Char) : Bool :=
  match quoting with
  | plain | brace => true
  | double | arithmetic _ => c ∈ ['\\', '\x60', '$', '"']
  | doubleBrace => c ∈ ['\\', '\x60', '$', '"', '\x7d']
  | document => c ∈ ['\\', '\x60', '$']

end Quoting

def endsWord (c : Char) : Bool :=
  c ∈ [' ', '\t', '\n', ';', '&', '|', '<', '>', '(', ')']

def consText (text : List Char) (quoted : Bool) : Word → Word
  | .text more alsoQuoted :: rest =>
    if quoted = alsoQuoted then .text (text ++ more) quoted :: rest
    else .text text quoted :: .text more alsoQuoted :: rest
  | parts => .text text quoted :: parts

def plainText? : Word → Option (List Char)
  | [] => some []
  | [.text text false] => some text
  | _ => none

def literalText (word : Word) : List Char :=
  word.flatMap fun
    | .text text _ => text
    | _ => []

/-- The text between backquotes, in which a backslash hides a backslash, a backquote or a dollar
sign, and inside double quotes a double quote. Gives the rest as well. -/
def backquotedText (inDouble : Bool) : List Char → Option (List Char × List Char)
  | [] => none
  | '\x60' :: rest => some ([], rest)
  | '\\' :: c :: rest =>
    let hidden := if c = '\n' then [] else
      if c ∈ ['\\', '\x60', '$'] || inDouble && c = '"' then [c] else ['\\', c]
    (backquotedText inDouble rest).map fun (text, rest) => (hidden ++ text, rest)
  | c :: rest => (backquotedText inDouble rest).map fun (text, rest) => (c :: text, rest)

def isContinued (line : List Char) : Bool :=
  (line.reverse.takeWhile (· = '\\')).length % 2 = 1

def documentLines (awaited : AwaitedDocument) : Nat → Bool → List Char → List Char × List Char
  | 0, _, text => (text, [])
  | _ + 1, _, [] => ([], [])
  | steps + 1, continued, text =>
    let raw := text.takeWhile (· ≠ '\n')
    let rest := text.drop (raw.length + 1)
    let line := if awaited.withoutTabs && !continued then raw.dropWhile (· = '\t') else raw
    if !continued && line = awaited.ending then ([], rest)
    else
      let ended := raw.length < text.length
      let continues := !awaited.literal && ended && isContinued line
      let (more, after) := documentLines awaited steps continues rest
      (line ++ (if ended then ['\n'] else []) ++ more, after)

def specialNames : List String :=
  [".", ":", "break", "continue", "eval", "exec", "exit", "export", "local", "readonly", "return",
    "set", "shift", "times", "trap", "unset"]

def isSpecialName (name : List Char) : Bool :=
  specialNames.contains (String.ofList name)

def assignment? : Word → Option (List Char × Word)
  | .text text false :: rest =>
    let name := text.takeWhile isNameChar
    match text.drop name.length with
    | '=' :: value =>
      if isName name then
        some (name, if value = [] then rest else .text value false :: rest)
      else none
    | _ => none
  | _ => none

def wordOf : Token → Word
  | .word word _ => word
  | .keyword keyword => [.text keyword.text.toList false]
  | _ => []

def hasQuotes (word : Word) : Bool :=
  word.any fun
    | .text _ quoted => quoted
    | _ => false

open Reading

def takeName (test : Char → Bool) : Reading (List Char) := do
  joinLines
  let state ← get
  -- A name may be broken by joined lines, so they are taken out first.
  let rec collect (steps : Nat) (line : Nat) (text : List Char) : List Char × Nat × List Char :=
    match steps, joined line text with
    | 0, (line, text) => ([], line, text)
    | steps + 1, (line, c :: rest) =>
      if test c then
        let (name, after) := collect steps line rest
        (c :: name, after)
      else ([], line, c :: rest)
    | _ + 1, (line, []) => ([], line, [])
  let (name, line, text) := collect state.text.length state.line state.text
  set { state with line, text }
  pure name

def singleQuotedText : Reading (List Char) := do
  let state ← get
  let text := state.text.takeWhile (· ≠ '\'')
  let line := state.line + text.count '\n'
  set { state with text := state.text.drop (text.length + 1), line }
  if text.length < state.text.length then pure text else fail "Unterminated quoted string"

inductive UseSign where
  | closed
  | orElse (colon : Bool)
  | orAssign (colon : Bool)
  | orFail (colon : Bool)
  | ifSet (colon : Bool)
  | trim (side : TrimSide) (longest : Bool)
  | colonOnly
  | unknown

def useSign : Reading UseSign := do
  match (← peek) with
  | some '\x7d' => skip; pure .closed
  | some '-' => skip; pure (.orElse false)
  | some '=' => skip; pure (.orAssign false)
  | some '?' => skip; pure (.orFail false)
  | some '+' => skip; pure (.ifSet false)
  | some ':' => do
    skip
    match (← peek) with
    | some '-' => skip; pure (.orElse true)
    | some '=' => skip; pure (.orAssign true)
    | some '?' => skip; pure (.orFail true)
    | some '+' => skip; pure (.ifSet true)
    | some '\x7d' => skip; pure .colonOnly
    | _ => skip; pure .unknown
  | some '%' => do skip; pure (.trim .ending (← nextIs '%'))
  | some '#' => do skip; pure (.trim .start (← nextIs '#'))
  | _ => skip; pure .unknown

inductive BraceHead where
  | named (name : List Char)
  | lengthOf (name : List Char)
  | unknown

def braceHead : Reading BraceHead := do
  match (← peek) with
  | none => pure .unknown
  | some c =>
    if isNameStart c then pure (.named (← takeName isNameChar))
    else if c.isDigit then pure (.named (← takeName Char.isDigit))
    else if c = '#' then do
      skip
      match (← peek) with
      | some d =>
        if isNameStart d then pure (.lengthOf (← takeName isNameChar))
        else if d.isDigit then pure (.lengthOf (← takeName Char.isDigit))
        else if d = '\x7d' then pure (.named ['#'])
        else do
          let state ← get
          skip
          if (← peek) = some '\x7d' && isSpecialParameter d then pure (.lengthOf [d])
          else do
            set state
            pure (.named ['#'])
      | none => pure (.named ['#'])
    else if c = '\x7d' then pure .unknown
    else do
      skip
      if isSpecialParameter c then pure (.named [c]) else pure .unknown

mutual

/-- The parts of a word up to where it ends, which is taken, unless it is the end of a plain
word. -/
def readParts : Nat → Quoting → Reading Word
  | 0, _ => fail "too deep"
  | fuel + 1, quoting => do
    let quoted := quoting.isQuoted
    match (← peek), quoting with
    | none, .plain | none, .document => pure []
    | none, .brace => fail "Missing '\x7d'"
    | none, .arithmetic _ => fail "Missing '))'"
    | none, _ => fail "Unterminated quoted string"
    | some '\x7d', .brace | some '\x7d', .doubleBrace => skip; pure []
    | some '"', .double => skip; pure []
    | some '"', .doubleBrace => do
      skip
      readParts fuel quoting
    | some ')', .arithmetic depth => do
      skip
      match depth with
      | depth + 1 => pure (consText [')'] true (← readParts fuel (.arithmetic depth)))
      | 0 => do
        if (← nextIs ')') then pure []
        else pure (consText [')'] true (← readParts fuel quoting))
    | some '(', .arithmetic depth => do
      skip
      pure (consText ['('] true (← readParts fuel (.arithmetic (depth + 1))))
    | some '\\', _ => do
      skip
      match (← rawNext) with
      | none => pure (consText ['\\'] true (← readParts fuel quoting))
      | some c =>
        let text := if quoting.escapes c then [c] else ['\\', c]
        pure (consText text true (← readParts fuel quoting))
    | some '$', _ => do
      skip
      let part ← readDollar fuel quoting
      pure (part ++ (← readParts fuel quoting))
    | some '\x60', _ => do
      skip
      let part ← readBackquoted fuel quoting
      pure (part :: (← readParts fuel quoting))
    | some c, .plain | some c, .brace => do
      if c = '\'' then do
        skip
        let text ← singleQuotedText
        pure (consText text true (← readParts fuel quoting))
      else if c = '"' then do
        skip
        let inner ← readParts fuel .double
        let marked := match inner with
          | [.parameter ['@'] .value true] => inner
          | _ => consText [] true inner
        pure (marked ++ (← readParts fuel quoting))
      else if quoting = .plain && endsWord c then pure []
      else do
        skip
        pure (consText [c] false (← readParts fuel quoting))
    | some c, _ => do
      skip
      pure (consText [c] quoted (← readParts fuel quoting))

def readDollar : Nat → Quoting → Reading Word
  | 0, _ => fail "too deep"
  | fuel + 1, quoting => do
    let quoted := quoting.isQuoted
    match (← peek) with
    | some '(' => do
      skip
      if (← nextIs '(') then
        pure [.arithmetic (← readParts fuel (.arithmetic 0)) quoted]
      else do
        let command ← readInner fuel
        match (← readToken fuel false false) with
        | .closeParenthesis => pure [.output command quoted]
        | token => expecting token "\")\""
    | some '\x7b' => do
      skip
      readBraced fuel quoting
    | some c =>
      if isNameStart c then
        pure [.parameter (← takeName isNameChar) .value quoted]
      else if isSpecialParameter c then do
        skip
        pure [.parameter [c] .value quoted]
      else pure [.text ['$'] quoted]
    | none => pure [.text ['$'] quoted]

def readBraced : Nat → Quoting → Reading Word
  | 0, _ => fail "too deep"
  | fuel + 1, quoting => do
    let quoted := quoting.isQuoted
    let inner : Quoting := if quoted then .doubleBrace else .brace
    let unknown : Reading Word := do
      let _ ← readParts fuel inner
      pure [.parameter [] .unknown quoted]
    match (← braceHead) with
    | .unknown => unknown
    | .lengthOf name => do
      if (← nextIs '\x7d') then pure [.parameter name .length quoted] else unknown
    | .named name => do
      let part (use : ParameterUse) : Word := [.parameter name use quoted]
      match (← useSign) with
      | .closed => pure (part .value)
      | .orElse colon => pure (part (.orElse colon (← readParts fuel inner)))
      | .orAssign colon => pure (part (.orAssign colon (← readParts fuel inner)))
      | .orFail colon => pure (part (.orFail colon (← readParts fuel inner)))
      | .ifSet colon => pure (part (.ifSet colon (← readParts fuel inner)))
      | .trim side longest => pure (part (.trim side longest (← readParts fuel .brace)))
      | .colonOnly => pure (part .value ++ (← readParts fuel inner))
      | .unknown => unknown

def readBackquoted : Nat → Quoting → Reading WordPart
  | 0, _ => fail "too deep"
  | fuel + 1, quoting => do
    let state ← get
    match backquotedText quoting.isQuoted state.text with
    | none => do
      set { state with text := [], line := state.line + state.text.count '\n' }
      fail "EOF in backquote substitution"
    | some (text, rest) => do
      set { state with text, line := 1, pushed := none, openAliases := [] }
      let command ← readInner fuel
      modify fun inner => { inner with
        text := rest
        line := state.line + (state.text.take (state.text.length - rest.length)).count '\n'
        pushed := none
        openAliases := state.openAliases }
      pure (.output command quoting.isQuoted)

/-- The next token. Line ends can be passed over, and keywords can be looked for; where they can
stand, there can be aliases. -/
def readToken : Nat → Bool → Bool → Reading Token
  | 0, _, _ => fail "too deep"
  | fuel + 1, newlines, keywords => readTokenOrAlias fuel newlines keywords keywords

def readTokenOrAlias : Nat → Bool → Bool → Bool → Reading Token
  | 0, _, _, _ => fail "too deep"
  | fuel + 1, newlines, keywords, aliases => do
    let isNew := (← get).pushed.isNone
    let behind ← if isNew then closeAliases else pure false
    let token ← readPlainToken fuel
    match token with
    | .newline => do
      if newlines then
        readDocuments fuel
        readTokenOrAlias fuel newlines keywords aliases
      else pure token
    | .word word false =>
      match if keywords then (plainText? word).bind Keyword.find? else none with
      | some keyword => pure (.keyword keyword)
      | none => do
        let name := if isNew && (aliases || behind) then plainText? word else none
        if (← openAlias name) then readTokenOrAlias fuel newlines keywords aliases
        else pure token
    | _ => pure token

def readPlainToken : Nat → Reading Token
  | 0 => fail "too deep"
  | fuel + 1 => do
    let state ← get
    match state.pushed with
    | some token => do
      set { state with pushed := none }
      pure token
    | none =>
      match (← peek) with
      | none => pure .ended
      | some ' ' | some '\t' => do
        skip
        readPlainToken fuel
      | some '#' => do
        modify fun state => { state with text := state.text.dropWhile (· ≠ '\n') }
        readPlainToken fuel
      | some '\n' => skip; pure .newline
      | some '&' => do
        skip
        pure (if (← nextIs '&') then .andIf else .ampersand)
      | some '|' => do
        skip
        pure (if (← nextIs '|') then .orIf else .pipe)
      | some ';' => do
        skip
        pure (if (← nextIs ';') then .endCase else .semicolon)
      | some '(' => skip; pure .openParenthesis
      | some ')' => skip; pure .closeParenthesis
      | some c => do
        if c = '<' || c = '>' then readArrow fuel none
        else do
          let word ← readParts fuel .plain
          match plainText? word, (← get).text.head? with
          | some [digit], some '<' | some [digit], some '>' =>
            if digit.isDigit then readArrow fuel (some (Text.digitsValue 10 [digit]))
            else pure (.word word false)
          | _, _ => pure (.word word (hasQuotes word))

def readArrow : Nat → Option Nat → Reading Token
  | 0, _ => fail "too deep"
  | _ + 1, stream => do
    let arrow ← match (← next) with
      | some '>' => do
        if (← nextIs '>') then pure Arrow.append
        else if (← nextIs '|') then pure .clobber
        else if (← nextIs '&') then pure .copyOutput
        else pure .output
      | _ => do
        if (← nextIs '<') then pure (.document (← nextIs '-'))
        else if (← nextIs '&') then pure .copyInput
        else if (← nextIs '>') then pure .both
        else pure .input
    pure (.arrow stream arrow)

def readTarget : Nat → Option Nat → Arrow → Reading Redirection
  | 0, _, _ => fail "too deep"
  | fuel + 1, stream, arrow => do
    match (← readToken fuel false false) with
    | .word word quoted => do
      match arrow with
      | .input => pure ⟨stream.getD 0, .readFrom word⟩
      | .output => pure ⟨stream.getD 1, .writeTo word⟩
      | .clobber => pure ⟨stream.getD 1, .overwrite word⟩
      | .append => pure ⟨stream.getD 1, .appendTo word⟩
      | .both => pure ⟨stream.getD 0, .readWrite word⟩
      | .copyInput => pure ⟨stream.getD 0, .copyOf word⟩
      | .copyOutput => pure ⟨stream.getD 1, .copyOf word⟩
      | .document withoutTabs => do
        let state ← get
        let number := state.nextDocument
        let awaited := { number, ending := literalText word, literal := quoted, withoutTabs }
        set { state with nextDocument := number + 1, awaited := state.awaited ++ [awaited] }
        pure ⟨stream.getD 0, .document number⟩
    | token => unexpected token

def readDocuments : Nat → Reading Unit
  | 0 => fail "too deep"
  | fuel + 1 => do
    let state ← get
    match state.awaited with
    | [] => pure ()
    | awaited :: others => do
      let (text, rest) := documentLines awaited (state.text.length + 1) false state.text
      let line := state.line + (state.text.take (state.text.length - rest.length)).count '\n'
      let parts ←
        if awaited.literal then do
          set { state with text := rest, line, awaited := others }
          pure [.text text true]
        else do
          set { state with text, awaited := others }
          let parts ← readParts fuel .document
          modify fun inner => { inner with text := rest, line }
          pure parts
      modify fun state => { state with documents := (awaited.number, parts) :: state.documents }
      readDocuments fuel

/-- A list of commands, of which some were read. A complete one ends with its line or the text; an
inner one goes on over lines, up to a token at which a list can end, if it `canEnd` here. -/
def readList : Nat → Bool → Bool → Command → Reading Command
  | 0, _, _, _ => fail "too deep"
  | fuel + 1, complete, canEnd, before => do
    match (← readToken fuel (!complete) true) with
    | .newline => do
      readDocuments fuel
      pure before
    | .ended => do
      readDocuments fuel
      push .ended
      pure before
    | token => do
      push token
      if !complete && canEnd && token.endsList then pure before
      else do
        let command ← readChain fuel
        let token ← readToken fuel false false
        let command := match token with
          | .ampersand => .background command
          | _ => command
        let all := match before with
          | .nothing => command
          | before => .sequence before command
        match token with
        | .ended => do
          readDocuments fuel
          push .ended
          pure all
        | .newline => do
          push token
          readList fuel complete true all
        | .ampersand | .semicolon => readList fuel complete true all
        | token => do
          if complete then unexpected token
          else do
            push token
            pure all

def readBody : Nat → Reading Command
  | 0 => fail "too deep"
  | fuel + 1 => readList fuel false false .nothing

def readInner : Nat → Reading Command
  | 0 => fail "too deep"
  | fuel + 1 => do
    let awaited := (← get).awaited
    modify fun state => { state with awaited := [] }
    let command ← readList fuel false true .nothing
    readDocuments fuel
    modify fun state => { state with awaited }
    pure command

def readChain : Nat → Reading Command
  | 0 => fail "too deep"
  | fuel + 1 => do
    let first ← readPipeline fuel false false
    readChainFrom fuel first

def readChainFrom : Nat → Command → Reading Command
  | 0, _ => fail "too deep"
  | fuel + 1, before => do
    match (← readToken fuel false false) with
    | .andIf => do
      let command ← readPipeline fuel true true
      readChainFrom fuel (.onSuccess before command)
    | .orIf => do
      let command ← readPipeline fuel true true
      readChainFrom fuel (.onFailure before command)
    | token => do
      push token
      pure before

def readPipeline : Nat → Bool → Bool → Reading Command
  | 0, _, _ => fail "too deep"
  | fuel + 1, newlines, keywords => do
    let token ← readToken fuel newlines keywords
    let negated := token.isKeyword .bang
    if !negated then push token
    let first ← readCommand fuel false negated
    let commands ← readPipes fuel
    let command := match commands with
      | [] => first
      | _ => .pipeline (first :: commands)
    pure (if negated then .negation command else command)

def readPipes : Nat → Reading (List Command)
  | 0 => fail "too deep"
  | fuel + 1 => do
    match (← readToken fuel false false) with
    | .pipe => do
      let command ← readCommand fuel true true
      pure (command :: (← readPipes fuel))
    | token => do
      push token
      pure []

def demand : Nat → Keyword → Reading Unit
  | 0, _ => fail "too deep"
  | fuel + 1, keyword => do
    let token ← readToken fuel false false
    if token.isKeyword keyword then pure ()
    else expecting token (Token.keyword keyword).name

def readCommand : Nat → Bool → Bool → Reading Command
  | 0, _, _ => fail "too deep"
  | fuel + 1, newlines, keywords => do
    let line := (← get).line
    match (← readToken fuel newlines keywords) with
    | .keyword .ifTest => do
      let command ← readConditional fuel
      demand fuel .fi
      readRedirected fuel line command
    | .keyword .whileTest => do
      let test ← readBody fuel
      demand fuel .doBody
      let body ← readBody fuel
      demand fuel .done
      readRedirected fuel line (.loop true test body)
    | .keyword .untilTest => do
      let test ← readBody fuel
      demand fuel .doBody
      let body ← readBody fuel
      demand fuel .done
      readRedirected fuel line (.loop false test body)
    | .keyword .forEach => do
      match (← readToken fuel false false) with
      | .word word false =>
        match (plainText? word).filter isName with
        | none => fail "Bad for loop variable"
        | some name => do
          let words ← readForWords fuel
          let token ← readToken fuel true true
          if !token.isKeyword .doBody then expecting token "\"do\""
          let body ← readBody fuel
          demand fuel .done
          readRedirected fuel line (.forEach line name words body)
      | _ => fail "Bad for loop variable"
    | .keyword .caseOf => do
      match (← readToken fuel false false) with
      | .word word _ => do
        let token ← readToken fuel true true
        if !token.isKeyword .inList then expecting token "\"in\""
        let cases ← readCases fuel
        readRedirected fuel line (.choice line word cases)
      | token => expecting token "word"
    | .openParenthesis => do
      let body ← readBody fuel
      match (← readToken fuel false false) with
      | .closeParenthesis => pure ()
      | token => expecting token "\")\""
      let redirections ← readRedirections fuel true
      pure (.subshell line body redirections)
    | .keyword .openBrace => do
      let body ← readBody fuel
      demand fuel .closeBrace
      readRedirected fuel line body
    | token => do
      match token with
      | .word _ _ | .arrow _ _ => do
        push token
        let line := (← get).line
        readSimple fuel line true [] [] []
      | _ => unexpected token

def readConditional : Nat → Reading Command
  | 0 => fail "too deep"
  | fuel + 1 => do
    let test ← readBody fuel
    demand fuel .thenBody
    let yes ← readBody fuel
    match (← readToken fuel false false) with
    | .keyword .elifThen => do
      pure (.conditional test yes (← readConditional fuel))
    | .keyword .elseThen => do
      pure (.conditional test yes (← readBody fuel))
    | token => do
      push token
      pure (.conditional test yes .nothing)

def readForWords : Nat → Reading (List Word)
  | 0 => fail "too deep"
  | fuel + 1 => do
    match (← readToken fuel true true) with
    | .keyword .inList => readWordList fuel
    | token => do
      match token with
      | .semicolon => pure ()
      | _ => push token
      pure [[.parameter ['@'] .value true]]

def readWordList : Nat → Reading (List Word)
  | 0 => fail "too deep"
  | fuel + 1 => do
    match (← readToken fuel false false) with
    | .word word _ => do pure (word :: (← readWordList fuel))
    | .newline => do
      readDocuments fuel
      pure []
    | .semicolon => pure []
    | token => unexpected token

def readCases : Nat → Reading (List (List Word × Command))
  | 0 => fail "too deep"
  | fuel + 1 => do
    let token ← readToken fuel true true
    if token.isKeyword .esac then pure []
    else do
      let first ← match token with
        | .openParenthesis => readToken fuel false false
        | token => pure token
      let patterns ← readPatterns fuel first
      let body ← readList fuel false true .nothing
      let token ← readToken fuel true true
      if token.isKeyword .esac then pure [(patterns, body)]
      else
        match token with
        | .endCase => do pure ((patterns, body) :: (← readCases fuel))
        | token => expecting token "\";;\""

def readPatterns : Nat → Token → Reading (List Word)
  | 0, _ => fail "too deep"
  | fuel + 1, first => do
    match (← readToken fuel false false) with
    | .pipe => do
      let token ← readToken fuel false false
      pure (wordOf first :: (← readPatterns fuel token))
    | .closeParenthesis => pure [wordOf first]
    | token => expecting token "\")\""

/-- The redirections behind a command, if there are any. Those behind a group that is just a
subshell take the place of those of the subshell. -/
def readRedirected : Nat → Nat → Command → Reading Command
  | 0, _, _ => fail "too deep"
  | fuel + 1, line, command => do
    match (← readRedirections fuel true), command with
    | [], command => pure command
    | redirections, .subshell line body _ => pure (.subshell line body redirections)
    | redirections, command => pure (.redirected line command redirections)

def readRedirections : Nat → Bool → Reading (List Redirection)
  | 0, _ => fail "too deep"
  | fuel + 1, keywords => do
    match (← readToken fuel false keywords) with
    | .arrow stream arrow => do
      let redirection ← readTarget fuel stream arrow
      pure (redirection :: (← readRedirections fuel false))
    | token => do
      push token
      pure []

def readSimple : Nat → Nat → Bool → List (List Char × Word) → List Word → List Redirection →
    Reading Command
  | 0, _, _, _, _, _ => fail "too deep"
  | fuel + 1, line, atStart, assignments, words, redirections => do
    match (← readTokenOrAlias fuel false false atStart) with
    | .word word _ => do
      match if atStart then assignment? word else none with
      | some assignment =>
        readSimple fuel line true (assignments ++ [assignment]) words redirections
      | none => readSimple fuel line false assignments (words ++ [word]) redirections
    | .arrow stream arrow => do
      let redirection ← readTarget fuel stream arrow
      readSimple fuel line atStart assignments words (redirections ++ [redirection])
    | token => do
      match token, assignments, words, redirections with
      | .openParenthesis, [], [word], [] => do
        match (← readToken fuel false false) with
        | .closeParenthesis => pure ()
        | token => expecting token "\")\""
        match (plainText? word).filter fun name => isName name && !isSpecialName name with
        | none => fail "Bad function name"
        | some name => do
          let line := (← get).line
          let body ← readCommand fuel true true
          pure (.define line name body)
      | _, _, _, _ => do
        push token
        pure (.simple line assignments words redirections)

end

def readLine : Reading (Option Command) := do
  modify fun state => { state with pushed := none, awaited := [] }
  let fuel := 20 * (← get).text.length + 100
  let command ← readList fuel true false .nothing
  match command, (← get).pushed with
  | .nothing, some .ended => pure none
  | command, _ => pure (some command)

end HouseStyle.Shell
