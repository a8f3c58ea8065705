import HouseStyle.Path
import HouseStyle.Text.Lines

namespace HouseStyle

abbrev Line := List Char

structure Source where
  path : Path
  lines : List Line

namespace Source

def ofText (path : Path) (text : List Char) : Source :=
  ⟨path, Text.lines text⟩

def isHeader (source : Source) : Bool :=
  source.path.hasExtension "h"

def isUnit (source : Source) : Bool :=
  source.path.hasExtension "c"

end Source

end HouseStyle
