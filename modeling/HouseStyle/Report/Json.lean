import HouseStyle.Json.Parse
import HouseStyle.Report.Basic

/-!
# Reports as JSON

A report is written with all its fields, unless one of its paths is no text, and can be read back.
Reading is more generous than writing: keys that mean nothing are passed over, the fields of a record
may come in any order or one after the other in an array, and a kind may be the only key of an object.
-/

namespace HouseStyle

namespace Json

def fields? (names : List String) : Json → Option (List Json)
  | .object members =>
    if members.any (·.1.isNone) then none
    else names.mapM fun name =>
      match members.filter (·.1 = some name) with
      | [(_, value)] => some value
      | _ => none
  | .array items => if items.length = names.length then some items else none
  | _ => none

def text : Json → Option String
  | .string text => text
  | _ => none

def list? {α : Type} (item? : Json → Option α) : Json → Option (List α)
  | .array items => items.mapM item?
  | _ => none

end Json

namespace Kind

def ofJson? : Json → Option Kind
  | .string (some label) => ofLabel? label
  | .object [(some label, .null)] => ofLabel? label
  | _ => none

end Kind

namespace Path

def toJson? (path : Path) : Option Json :=
  path.text?.map .ofString

def ofJson? (value : Json) : Option Path :=
  value.text.map ofText

end Path

namespace Location

def toJson? (location : Location) : Option Json :=
  location.file.toJson?.map fun file =>
    .object [(some "file", file), (some "line", .natural location.line)]

def line? : Json → Option Nat
  | .natural number => if number < 0x10000000000000000 then some number else none
  | _ => none

def ofJson? (value : Json) : Option Location := do
  match (← value.fields? ["file", "line"]) with
  | [file, line] => pure ⟨← Path.ofJson? file, ← line? line⟩
  | _ => none

end Location

namespace Finding

def toJson? (finding : Finding) : Option Json :=
  finding.location.toJson?.map fun location =>
    .object [(some "rule", .ofString finding.kind.label), (some "location", location),
      (some "message", .ofString finding.message)]

def ofJson? (value : Json) : Option Finding := do
  match (← value.fields? ["rule", "location", "message"]) with
  | [kind, location, message] =>
    pure ⟨← Kind.ofJson? kind, ← Location.ofJson? location, ← message.text⟩
  | _ => none

end Finding

namespace Report

def toJson? (report : Report) : Option Json := do
  let findings ← report.findings.mapM Finding.toJson?
  let files ← report.checkedFiles.mapM Path.toJson?
  pure (.object [(some "violations", .array findings), (some "checked_files", .array files)])

def ofJson? (value : Json) : Option Report := do
  match (← value.fields? ["violations", "checked_files"]) with
  | [findings, files] => pure ⟨← findings.list? Finding.ofJson?, ← files.list? Path.ofJson?⟩
  | _ => none

def json? (report : Report) : Option String :=
  report.toJson?.map fun value => String.ofList value.pretty

def ofJsonText? (text : String) : Option Report :=
  (Json.parse text.toList).bind ofJson?

end Report

end HouseStyle
