import HouseStyle.Compiler
import HouseStyle.Finding
import HouseStyle.Source.Scan

namespace HouseStyle.CompilationRule

def finding (source : Source) (message : String) : Finding :=
  ⟨.compilation, .wholeFile source.path, message⟩

def diagnosticLines (diagnostics : String) : List Line :=
  (Text.lines (Text.trim diagnostics.toList)).filter fun line => !Line.isBlank line

def check (checker : Checker) (source : Source) : List Finding :=
  match checker source.path with
  | .ok .passed => []
  | .ok (.failed diagnostics) =>
    (diagnosticLines diagnostics).map fun line =>
      finding source ("Compiler error/warning: " ++ String.ofList line)
  | .error error => [finding source error.message]

def warnings (checker : Checker) (source : Source) : List String :=
  match checker source.path with
  | .ok _ => []
  | .error error => [source.path.display ++ ": " ++ error.message]

end HouseStyle.CompilationRule
