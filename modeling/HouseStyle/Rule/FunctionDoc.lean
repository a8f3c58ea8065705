import HouseStyle.Finding
import HouseStyle.Source.Definition

namespace HouseStyle

structure FunctionDocRule where
  window : Nat := 10
  deriving DecidableEq, Repr

namespace FunctionDocRule

def finding (source : Source) (definition : Definition) : Finding :=
  ⟨.functionDoc, ⟨source.path, definition.line⟩,
    "Function '" ++ String.ofList definition.name ++ "' missing documentation comment"⟩

def check (rule : FunctionDocRule) (source : Source) : List Finding :=
  let undocumented := (definitions source.lines).filter fun definition =>
    !(Documentation.inspect source.lines definition rule.window).found
  undocumented.map (finding source)

end FunctionDocRule

end HouseStyle
