import HouseStyle.Report.Json
import HouseStyle.Report.Text

namespace HouseStyle

inductive Format where
  | text
  | json
  | compact
  deriving DecidableEq, Repr

namespace Format

def ofName? : String → Option Format
  | "text" => some text
  | "json" => some json
  | "compact" => some compact
  | _ => none

end Format

inductive RenderError where
  | pathNotText
  deriving DecidableEq, Repr

namespace RenderError

def message : RenderError → String
  | pathNotText => "path contains invalid UTF-8 characters"

end RenderError

namespace Report

def render (report : Report) : Format → Except RenderError String
  | .text => .ok report.text
  | .json =>
    match report.json? with
    | some text => .ok text
    | none => .error .pathNotText
  | .compact => .ok report.compact

end Report

end HouseStyle
