import HouseStyle.Finding
import HouseStyle.Source.Scan
import HouseStyle.Text.Lower
import HouseStyle.Text.Utf8

namespace HouseStyle

structure ErrorHandlingRule where
  functions : List String := ["malloc", "fopen", "fprintf", "fscanf", "fclose"]
  lookahead : Nat := 4
  deriving DecidableEq, Repr

namespace Line

def equalsSign : UInt8 := 0x3D

/-- The bytes that make a comparison out of an equals sign after them: `=`, `!`, `<` and `>`. -/
def comparisonBytes : List UInt8 :=
  [0x3D, 0x21, 0x3C, 0x3E]

/-- An equals sign stands among the bytes that belongs to no comparison, where `previous` is the
byte before them. -/
def assignsAfter (previous : Option UInt8) : List UInt8 → Bool
  | [] => false
  | byte :: rest =>
    (byte = equalsSign && rest.head? ≠ some equalsSign &&
      !comparisonBytes.any (previous = some ·)) || assignsAfter (some byte) rest

def hasAssignment (line : Line) : Bool :=
  assignsAfter none (Text.encode line)

def holds (word : String) (line : Line) : Bool :=
  Text.occursIn word.toList line

def isErrorCheck (line : Line) : Bool :=
  (holds "if" line && (holds "NULL" line || holds "==" line || holds "!=" line)) ||
    holds "perror" line || holds "fprintf(stderr" line

end Line

namespace ErrorHandlingRule

def isChecked (lines : List Line) : Bool :=
  lines.any fun line => Line.isErrorCheck (Text.trim line)

def assignedCalls (rule : ErrorHandlingRule) (line : Line) : List String :=
  if Line.hasAssignment line then
    rule.functions.filter fun function => Line.holds (function ++ "(") line
  else []

def callFinding (path : Path) (line : Nat) (function : String) : Finding :=
  ⟨.errorHandling, ⟨path, line⟩, "Call to " ++ function ++ "() not checked for errors"⟩

def uncheckedCalls (rule : ErrorHandlingRule) (path : Path) (line : Nat) :
    List Line → List Finding
  | [] => []
  | text :: rest =>
    let here := if isChecked (rest.take rule.lookahead) then [] else rule.assignedCalls text
    here.map (callFinding path line) ++ rule.uncheckedCalls path (line + 1) rest

def misdirects (line : Line) : Bool :=
  Line.holds "printf(" line && Line.holds "error" (Text.lower line) &&
    !Line.holds "fprintf(stderr" line

def outputFinding (path : Path) (line : Nat) : Finding :=
  ⟨.errorOutput, ⟨path, line⟩, "Error message should be sent to stderr, not stdout"⟩

def misdirectedOutput (path : Path) (line : Nat) : List Line → List Finding
  | [] => []
  | text :: rest =>
    if misdirects text then outputFinding path line :: misdirectedOutput path (line + 1) rest
    else misdirectedOutput path (line + 1) rest

def check (rule : ErrorHandlingRule) (source : Source) : List Finding :=
  rule.uncheckedCalls source.path 1 source.lines ++ misdirectedOutput source.path 1 source.lines

end ErrorHandlingRule

end HouseStyle
