import HouseStyle.Finding
import HouseStyle.Source.Scan

namespace HouseStyle.HeaderGuardRule

def hasDirective (directive : String) (lines : List Line) : Bool :=
  lines.any fun line => directive.toList.isPrefixOf (Text.trim line)

def isGuarded (lines : List Line) : Bool :=
  hasDirective "#ifndef" (lines.take 10) && hasDirective "#define" (lines.take 15) &&
    hasDirective "#endif" (lines.drop (lines.length - 10))

def check (source : Source) : List Finding :=
  if isGuarded source.lines then []
  else [⟨.headerGuard, ⟨source.path, 1⟩,
    "Header file missing proper include guards (#ifndef/#define/#endif)"⟩]

end HouseStyle.HeaderGuardRule
