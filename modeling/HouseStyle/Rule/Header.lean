import HouseStyle.Finding
import HouseStyle.Source.Scan
import HouseStyle.Text.Lower

namespace HouseStyle

structure HeaderRule where
  scanLines : Nat := 20
  window : Nat := 15
  deriving DecidableEq, Repr

namespace HeaderRule

def requiredFields : List String :=
  ["File:", "Author:", "Purpose:"]

def finding (source : Source) (message : String) : Finding :=
  ⟨.header, ⟨source.path, 1⟩, message⟩

def hasField (lines : List Line) (field : String) : Bool :=
  lines.any fun line => Text.occursIn (Text.lower field.toList) (Text.lower line)

def check (rule : HeaderRule) (source : Source) : List Finding :=
  match (source.lines.take rule.scanLines).findIdx? Line.opensComment with
  | none => [finding source "Missing file header comment"]
  | some opener =>
    let header := (source.lines.drop opener).take rule.window
    (requiredFields.filter fun field => !hasField header field).map fun field =>
      finding source ("Header missing '" ++ field ++ "' field")

end HeaderRule

end HouseStyle
