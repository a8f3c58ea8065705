import HouseStyle.Shell.Awk.Basic

namespace HouseStyle.Shell.Awk

structure Complaint where
  line : Nat
  message : List Char
  isBare : Bool := false

def Complaint.text (file : Option (List Char)) (complaint : Complaint) : List Char :=
  let line := (toString complaint.line).toList
  if complaint.isBare then line ++ [':', ' '] ++ complaint.message
  else
    let origin := match file with
      | some path => path ++ [':', ' ']
      | none => []
    origin ++ "line ".toList ++ line ++ [':', ' '] ++ complaint.message

inductive Token where
  | number (value : Float) (spelled : List Char)
  | text (text : List Char)
  | regex (source : List Char)
  | name (name : String)
  | callee (name : String)
  | builtin (builtin : Builtin) (name : String)
  | word (word : String)
  | sign (sign : String)
  | newline
  | ending
  | broken (complaint : Complaint)

structure Lexeme where
  token : Token
  line : Nat

namespace Token

def shown : Token → List Char
  | number _ spelled => spelled
  | text chars => chars
  | regex source => '/' :: source ++ ['/']
  | name spelled | callee spelled | builtin _ spelled | word spelled | sign spelled =>
    spelled.toList
  | newline => "end of line".toList
  | ending => "end of file".toList
  | broken complaint => complaint.message

def endsValue : Token → Bool
  | number _ _ | text _ | regex _ | name _ | builtin _ _ => true
  | sign spelled => [")", "]", "$", "++", "--"].contains spelled
  | _ => false

end Token

def words : List String :=
  ["BEGIN", "END", "function", "if", "else", "while", "for", "do", "break", "continue", "next",
    "nextfile", "exit", "return", "print", "printf", "getline", "delete", "in"]

def signs : List String :=
  ["&&", "||", "==", "!=", "<=", ">=", "++", "--", "+=", "-=", "*=", "/=", "%=", "^=", "!~", ">>",
    "\x7b", "\x7d", "(", ")", "[", "]", ";", ",", "+", "-", "*", "/", "%", "^", "!", ">", "<", "|",
    "?", ":", "~", "$", "="]

def isNameStart (c : Char) : Bool :=
  c.isAlpha || c = '_'

def isNamePart (c : Char) : Bool :=
  c.isAlphanum || c = '_'

def isHexadecimal (c : Char) : Bool :=
  c.isDigit || ('a' ≤ c && c ≤ 'f') || ('A' ≤ c && c ≤ 'F')

def unescaped : Nat → List Char → List Char
  | 0, text => text
  | _ + 1, [] => []
  | steps + 1, '\\' :: c :: rest =>
    match [('n', '\n'), ('t', '\t'), ('f', '\x0c'), ('b', '\x08'), ('r', '\r'), ('a', '\x07'),
        ('v', '\x0b'), ('\\', '\\'), ('"', '"')].lookup c with
    | some meant => meant :: unescaped steps rest
    | none =>
      if Arithmetic.isOctal c then
        let digits := ((c :: rest).take 3).takeWhile Arithmetic.isOctal
        Char.ofNat (Text.digitsValue 8 digits % 256) ::
          unescaped steps ((c :: rest).drop digits.length)
      else if c = 'x' && (rest.head?.any isHexadecimal) then
        let digits := (rest.take 2).takeWhile isHexadecimal
        Char.ofNat (Text.digitsValue 16 digits) :: unescaped steps (rest.drop digits.length)
      else if c = '\n' then unescaped steps rest
      else '\\' :: c :: unescaped steps rest
  | steps + 1, c :: rest => c :: unescaped steps rest

def quoted? : Nat → List Char → List Char → Option (List Char × List Char)
  | 0, _, _ => none
  | _ + 1, _, [] => none
  | steps + 1, text, c :: rest =>
    if c = '"' then some (text, rest)
    else if c = '\n' then none
    else if c = '\\' then
      match rest with
      | [] => none
      | next :: rest => quoted? steps (next :: c :: text) rest
    else quoted? steps (c :: text) rest

/-- An expression up to the slash that ends it, with the last character first, and what follows.
`inBrackets` tells that a slash stands for itself; `atStart` that brackets have just begun. -/
def regex? : Nat → Bool → Bool → List Char → List Char → Option (List Char × List Char)
  | 0, _, _, _, _ => none
  | _ + 1, _, _, _, [] => none
  | steps + 1, inBrackets, atStart, source, c :: rest =>
    if c = '\n' then none
    else if c = '\\' then
      match rest with
      | [] => none
      | '/' :: rest => regex? steps inBrackets false ('/' :: source) rest
      | next :: rest => regex? steps inBrackets false (next :: c :: source) rest
    else if inBrackets then
      if c = ']' && !atStart then regex? steps false false (c :: source) rest
      else if c = '^' && atStart then regex? steps true true (c :: source) rest
      else if c = '[' && rest.head? = some ':' then
        let name := (rest.drop 1).takeWhile Char.isAlpha
        let behind := rest.drop (name.length + 1)
        if behind.take 2 = [':', ']'] then
          regex? steps true false (']' :: ':' :: name.reverse ++ (':' :: c :: source))
            (behind.drop 2)
        else regex? steps true false (c :: source) rest
      else regex? steps true false (c :: source) rest
    else if c = '/' then some (source, rest)
    else if c = '[' then regex? steps true true (c :: source) rest
    else regex? steps false false (c :: source) rest

def excerpt (text : List Char) : List Char :=
  (text.takeWhile (· ≠ '\n')).take 10

def atLine (line : Nat) (message : List Char) : Complaint :=
  { line, message }

def unexpected (line : Nat) (c : Char) : Complaint :=
  { line, message := "unexpected character '".toList ++ [c, '\''], isBare := true }

def tokens : Nat → Nat → Option Token → List Char → List Lexeme
  | 0, line, _, _ => [⟨.ending, line⟩]
  | steps + 1, line, before, text =>
    let give (token : Token) (rest : List Char) : List Lexeme :=
      ⟨token, line⟩ :: tokens steps line (some token) rest
    match text with
    | [] =>
      -- There is one more line end than the text has.
      [⟨.newline, line⟩, ⟨.ending, line + 1⟩]
    | c :: rest =>
      if c = '\n' then ⟨.newline, line⟩ :: tokens steps (line + 1) (some .newline) rest
      else if c = ' ' || c = '\t' || c = '\r' || c = '\x0b' || c = '\x0c' then
        tokens steps line before rest
      else if c = '#' then tokens steps line before (rest.dropWhile (· ≠ '\n'))
      else if c = '\\' then
        match rest.dropWhile (fun c => c = ' ' || c = '\t' || c = '\r') with
        | '\n' :: rest => tokens steps (line + 1) before rest
        | _ => give (.broken (unexpected line '\\')) rest
      else if c = '"' then
        match quoted? (rest.length + 1) [] rest with
        | some (found, rest) =>
          let line := line + found.count '\n'
          let token := Token.text (unescaped (found.length + 1) found.reverse)
          ⟨token, line⟩ :: tokens steps line (some token) rest
        | none =>
          give (.broken (atLine line ("runaway string constant \"".toList ++ excerpt rest ++
            " ...".toList))) []
      else if c = '/' && !(before.any Token.endsValue) then
        match regex? (rest.length + 1) false false [] rest with
        | some (source, rest) => give (.regex source.reverse) rest
        | none =>
          give (.broken (atLine line ("runaway regular expression /".toList ++ excerpt rest ++
            " ...".toList))) []
      else if c.isDigit || (c = '.' && rest.head?.any Char.isDigit) then
        match scaledNumber? Char.isDigit 10 1 ['e', 'E'] text with
        | some (digits, power, rest) =>
          give (.number (ofBits false (Binary64.ofDecimal digits power))
            (text.take (text.length - rest.length))) rest
        | none => give (.broken (unexpected line c)) []
      else if isNameStart c then
        let letters := text.takeWhile isNamePart
        let rest := text.drop letters.length
        let name := String.ofList letters
        match Builtin.names.lookup name with
        | some builtin => give (.builtin builtin name) rest
        | none =>
          if words.contains name then give (.word name) rest
          else if rest.head? = some '(' then give (.callee name) rest
          else give (.name name) rest
      else
        match signs.find? fun sign => sign.toList.isPrefixOf text with
        | some sign => give (.sign sign) (text.drop sign.length)
        | none => give (.broken (unexpected line c)) rest

def tokensOf (text : List Char) : List Lexeme :=
  tokens (2 * text.length + 4) 1 none text

end HouseStyle.Shell.Awk
