import HouseStyle.Finding
import HouseStyle.Source.Scan

namespace HouseStyle.IndentationRule

def isExempt (line : Line) : Bool :=
  let text := Text.trim line
  text = [] || Line.isLineComment text || Line.isContinuation text

def finding (source : Source) (line unit : Nat) : Finding :=
  ⟨.indentation, ⟨source.path, line⟩,
    "Inconsistent indentation (expected multiple of " ++ toString unit ++ ")"⟩

def checkFrom (source : Source) (scan : Scan) (line : Nat) : List Line → List Finding
  | [] => []
  | text :: rest =>
    if isExempt text then checkFrom source scan (line + 1) rest
    else
      let width := Text.indentWidth text
      match scan.observeIndent width with
      | (some unit, scan) =>
        if width > 0 && width % unit ≠ 0 then
          finding source line unit :: checkFrom source scan (line + 1) rest
        else checkFrom source scan (line + 1) rest
      | (none, scan) => checkFrom source scan (line + 1) rest

def check (source : Source) : List Finding :=
  checkFrom source {} 1 source.lines

end HouseStyle.IndentationRule
