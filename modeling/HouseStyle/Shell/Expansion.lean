import HouseStyle.Shell.Arithmetic
import HouseStyle.Shell.Machine
import HouseStyle.Shell.Pattern

/-!
# What words stand for

A word is expanded into pieces, which are then cut into fields: at blanks that come out of
parameters and commands outside of quotes, and between the parameters of a list. A field that is a
pattern stands for the files it describes, if there are any.
-/

namespace HouseStyle.Shell

inductive Piece where
  | char (c : Char) (quoted cuts : Bool)
  | gap
  | mark
  | seam

namespace Piece

def quoted (text : List Char) : List Piece :=
  mark :: text.map (char · true false)

def cut (text : List Char) : List Piece :=
  text.map (char · false true) ++ [seam]

def ofValue (inQuotes : Bool) (text : List Char) : List Piece :=
  if inQuotes then text.map (char · true false) else cut text

def quotedChars (pieces : List Piece) : List QuotedChar :=
  pieces.filterMap fun
    | char c quoted _ => some (c, quoted)
    | _ => none

def text (pieces : List Piece) : List Char :=
  (quotedChars pieces).map (·.1)

end Piece

/-! ## Parameters -/

namespace Exec

def optionNames : List (String × Char) :=
  [("errexit", 'e'), ("noglob", 'f'), ("ignoreeof", 'I'), ("interactive", 'i'), ("monitor", 'm'),
    ("noexec", 'n'), ("stdin", 's'), ("xtrace", 'x'), ("verbose", 'v'), ("vi", 'V'), ("emacs", 'E'),
    ("noclobber", 'C'), ("allexport", 'a'), ("notify", 'b'), ("nounset", 'u'), ("privileged", 'p'),
    ("nolog", '\x01'), ("debug", '\x02')]

def optionLetters : List Char :=
  ((optionNames.map (·.2)).filter Char.isAlpha).reverse

def decimal (n : Nat) : List Char :=
  (toString n).toList

def parameterValue? (name : List Char) : Exec (Option (List Char)) := do
  let process ← process
  match name with
  | ['#'] => pure (some (decimal process.parameters.length))
  | ['?'] => pure (some (decimal process.status))
  | ['$'] => pure (some (decimal process.number))
  | ['!'] => pure (process.lastStarted.map decimal)
  | ['-'] => pure (some (optionLetters.filter process.options.contains))
  | _ =>
    if name.all Char.isDigit then
      match Text.digitsValue 10 name with
      | 0 => pure (some process.name)
      | index + 1 => pure process.parameters[index]?
    else value? name

def isList (name : List Char) : Bool :=
  name = ['@'] || name = ['*']

def joinedParameters : Exec (List Char) := do
  pure ((← joiner).intercalate (← process).parameters)

def isFieldList (name : List Char) (inQuotes cutting : Bool) : Bool :=
  isList name && cutting && (name = ['@'] || !inQuotes)

def fieldPieces (inQuotes : Bool) (texts : List (List Char)) : List Piece :=
  [Piece.gap].intercalate (texts.map fun text =>
    if inQuotes then Piece.quoted text else Piece.cut text)

/-- The pieces of a list of parameters. Where the word is cut into fields, each parameter is a field
of its own, except for the star in quotes. -/
def listPieces (name : List Char) (inQuotes cutting : Bool) : Exec (List Piece) := do
  if isFieldList name inQuotes cutting then
    pure (fieldPieces inQuotes (← process).parameters)
  else pure (Piece.ofValue inQuotes (← joinedParameters))

def refuseUnset (name : List Char) : Exec Unit := do
  if (← hasOption 'u') then fail (name ++ ": parameter not set".toList)

/-! ## Arithmetic -/

def arithmeticFault {α : Type} (text : List Char) (fault : Arithmetic.Fault) : Exec α :=
  fail (("arithmetic expression: " ++ fault.message ++ ": \"").toList ++ text ++ ['"'])

def numberOf (name : List Char) : Exec Int := do
  let text := (← value? name).getD []
  match Arithmetic.ofValue? text with
  | some number => pure number
  | none => illegalNumber text

def integerText (n : Int) : List Char :=
  (toString n).toList

def passOver (whole : List Char) (expression : Arithmetic.Expression) : Exec Unit :=
  match expression.fault? with
  | some fault => arithmeticFault whole fault
  | none => pure ()

def evaluate (whole : List Char) : Arithmetic.Expression → Exec Int
  | .number value => pure value
  | .valueOf name => numberOf name
  | .unary operator operand => do
    pure (operator.apply (← evaluate whole operand))
  | .binary operator left right => do
    let left ← evaluate whole left
    let right ← evaluate whole right
    match operator.apply left right with
    | .ok value => pure value
    | .error fault => arithmeticFault whole fault
  | .andAlso left right => do
    if (← evaluate whole left) = 0 then do
      passOver whole right
      pure 0
    else pure (Arithmetic.ofBool ((← evaluate whole right) ≠ 0))
  | .orElse left right => do
    if (← evaluate whole left) ≠ 0 then do
      passOver whole right
      pure 1
    else pure (Arithmetic.ofBool ((← evaluate whole right) ≠ 0))
  | .conditional test yes no => do
    if (← evaluate whole test) ≠ 0 then do
      let value ← evaluate whole yes
      passOver whole no
      pure value
    else do
      passOver whole yes
      evaluate whole no
  | .assign name operator value => do
    let right ← evaluate whole value
    let result ← match operator with
      | none => pure right
      | some operator =>
        match operator.apply (← numberOf name) right with
        | .ok value => pure value
        | .error fault => arithmeticFault whole fault
    setValue name (integerText result)
    pure result
  | .faulty fault => arithmeticFault whole fault
  | .broken first fault => do
    let _ ← evaluate whole first
    arithmeticFault whole fault

def arithmetic (text : List Char) : Exec (List Char) := do
  pure (integerText (← evaluate text (Arithmetic.parse text)))

/-! ## Pieces of words -/

def isGiven (name : List Char) (colon : Bool) : Exec Bool := do
  if isList name then
    let parameters := (← process).parameters
    pure (parameters ≠ [] && (!colon || parameters.any (· ≠ [])))
  else
    match (← parameterValue? name) with
    | some value => pure (!colon || value ≠ [])
    | none => pure false

def tildeValue? (name : List Char) : Exec (Option (List Char)) := do
  if name = [] then value? "HOME".toList
  else pure (if name = "root".toList then some "/root".toList else none)

structure Manner where
  cutting : Bool
  cutsText : Bool := false
  tildes : Bool := false
  tildesInside : Bool := false

def Manner.forDefault (manner : Manner) (quoted : Bool) : Manner :=
  { cutting := manner.cutting, cutsText := !quoted && manner.cutting, tildes := true }

def withoutTilde (manner : Manner) (isLast : Bool) (text : List Char) : Exec (List Piece) := do
  let plain (text : List Char) := text.map (Piece.char · false manner.cutsText)
  match text with
  | '~' :: rest =>
    let stops (c : Char) : Bool := c = '/' || manner.tildesInside && c = ':'
    let name := rest.takeWhile (!stops ·)
    let after := rest.drop name.length
    if after = [] && !isLast then pure (plain text)
    else match (← tildeValue? name) with
      | some home => pure (Piece.quoted home ++ plain after)
      | none => pure (plain text)
  | _ => pure (plain text)

def tildesBehindColons (manner : Manner) (isLast : Bool) (text : List Char) :
    Exec (List Piece) := do
  let parts := Text.splitAt ':' text
  let pieces ← (List.range parts.length).mapM fun index => do
    let part := parts[index]?.getD []
    let last := index + 1 = parts.length
    let pieces ← withoutTilde manner (!last || isLast) part
    pure (if index = 0 then pieces else Piece.char ':' false manner.cutsText :: pieces)
  pure pieces.flatten

def givenPieces (name : List Char) (quoted : Bool) (manner : Manner) : Exec (List Piece) := do
  if isList name then listPieces name quoted manner.cutting
  else pure (Piece.ofValue quoted ((← parameterValue? name).getD []))

mutual

def expandParts (run : Command → Exec (List Char)) (manner : Manner) (atStart : Bool) :
    List WordPart → Exec (List Piece)
  | [] => pure []
  | part :: rest => do
    let pieces ← expandPart run manner atStart rest.isEmpty part
    let more ← expandParts run manner false rest
    pure (pieces ++ more)

def expandPart (run : Command → Exec (List Char)) (manner : Manner) (atStart isLast : Bool) :
    WordPart → Exec (List Piece)
  | .text text true => pure (Piece.quoted text)
  | .text text false => do
    if manner.tildes && atStart && manner.tildesInside then tildesBehindColons manner isLast text
    else if manner.tildes && atStart then withoutTilde manner isLast text
    else pure (text.map (Piece.char · false manner.cutsText))
  | .output command quoted => do
    let text ← run command
    pure (Piece.ofValue quoted text)
  | .arithmetic parts quoted => do
    let pieces ← expandParts run { cutting := false } false parts
    pure (Piece.ofValue quoted (← arithmetic (Piece.text pieces)))
  | .parameter name use quoted => expandUse run manner name quoted use

def expandUse (run : Command → Exec (List Char)) (manner : Manner) (name : List Char)
    (quoted : Bool) : ParameterUse → Exec (List Piece)
  | .unknown => fail "Bad substitution".toList
  | .value => do
    if isList name then listPieces name quoted manner.cutting
    else match (← parameterValue? name) with
      | some value => pure (Piece.ofValue quoted value)
      | none => do
        refuseUnset name
        pure (Piece.ofValue quoted [])
  | .length => do
    if isList name then pure (Piece.ofValue quoted (decimal (← joinedParameters).length))
    else match (← parameterValue? name) with
      | some value => pure (Piece.ofValue quoted (decimal value.length))
      | none => do
        refuseUnset name
        pure (Piece.ofValue quoted ['0'])
  | .orElse colon word => do
    if (← isGiven name colon) then givenPieces name quoted manner
    else expandParts run (manner.forDefault quoted) true word
  | .ifSet colon word => do
    if (← isGiven name colon) then expandParts run (manner.forDefault quoted) true word
    else pure []
  | .orAssign colon word => do
    if (← isGiven name colon) then givenPieces name quoted manner
    else do
      let pieces ← expandParts run { cutting := false, tildes := true } true word
      setValue name (Piece.text pieces)
      pure (Piece.ofValue quoted (Piece.text pieces))
  | .orFail colon word => do
    if (← isGiven name colon) then givenPieces name quoted manner
    else do
      let message ← match word with
        | [] => pure ("parameter not set" ++ if colon then " or null" else "").toList
        | word => do
          pure (Piece.text (← expandParts run { cutting := false, tildes := true } true word))
      fail (name ++ [':', ' '] ++ message)
  | .trim side longest pattern => do
    let isFieldList := isFieldList name quoted manner.cutting
    let value ←
      if isFieldList then do
        pure (['\x00'].intercalate (← process).parameters)
      else if isList name then joinedParameters
      else match (← parameterValue? name) with
        | some value => pure value
        | none => do
          refuseUnset name
          pure []
    let tokens := globOf (Piece.quotedChars
      (← expandParts run { cutting := false, tildes := true } true pattern))
    let trimmed := match side with
      | .start => trimStart tokens longest value
      | .ending => trimEnd tokens longest value
    pure (if isFieldList then fieldPieces quoted (Text.splitAt '\x00' trimmed)
      else Piece.ofValue quoted trimmed)

end

end Exec

end HouseStyle.Shell
