import HouseStyle.Source.Basic
import HouseStyle.Text.Blank
import HouseStyle.Text.Find

/-!
# Scanning lines

Three things are carried from line to line: whether a block comment is open, the brace level, and
the indent unit. Each has one operation that reads and updates it and leaves the other two alone.

Comments are told line by line. A line that holds a closing mark is a comment and ends the comment,
wherever an opening mark stands on it; a line with an opening mark only starts one.
-/

namespace HouseStyle

inductive LineKind where
  | code
  | comment
  deriving DecidableEq, Repr

namespace Line

def opensComment (line : Line) : Bool :=
  Text.occursIn ['/', '*'] line

def closesComment (line : Line) : Bool :=
  Text.occursIn ['*', '/'] line

def isLineComment (line : Line) : Bool :=
  ['/', '/'].isPrefixOf line

def isContinuation (line : Line) : Bool :=
  ['*'].isPrefixOf line

def isBlank (line : Line) : Bool :=
  Text.trim line = []

def braceDelta (line : Line) : Int :=
  line.count '\x7b' - line.count '\x7d'

end Line

structure Scan where
  inComment : Bool := false
  braceLevel : Int := 0
  indentUnit : Option Nat := none
  deriving DecidableEq, Repr

namespace Scan

def classify (scan : Scan) (line : Line) : LineKind × Scan :=
  let inComment := scan.inComment || Line.opensComment line
  if Line.closesComment line then (.comment, { scan with inComment := false })
  else
    let kind := if inComment || Line.isLineComment (Text.trim line) then .comment else .code
    (kind, { scan with inComment })

def trackBraces (scan : Scan) (line : Line) : Int × Scan :=
  let level := scan.braceLevel + Line.braceDelta line
  (level, { scan with braceLevel := level })

/-- Note an indent width, and return the unit. The first width that is not zero becomes the unit. -/
def observeIndent (scan : Scan) (width : Nat) : Option Nat × Scan :=
  let unit :=
    match scan.indentUnit with
    | some unit => some unit
    | none => if width = 0 then none else some width
  (unit, { scan with indentUnit := unit })

def codeLines (scan : Scan) (index : Nat) : List Line → List (Nat × Line)
  | [] => []
  | line :: rest =>
    match scan.classify line with
    | (.code, scan) => (index, line) :: codeLines scan (index + 1) rest
    | (.comment, scan) => codeLines scan (index + 1) rest

end Scan

def codeLines (lines : List Line) : List (Nat × Line) :=
  Scan.codeLines {} 0 lines

end HouseStyle
