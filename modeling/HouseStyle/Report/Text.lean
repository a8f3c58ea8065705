import HouseStyle.Report.Basic

namespace HouseStyle.Report

def rule : String :=
  "".pushn '=' 60

def banner : List String :=
  [rule, "CSC 352 Coding Standards Linter Report", rule, ""]

def reference : List String := [
  "Coding Standards Reference:",
  "- File header: name, author, purpose",
  "- Function comments: purpose, args, return, assumptions",
  "- Consistent indentation",
  "- Header guards for .h files",
  "- Error checking for library calls",
  "- Error messages to stderr",
  "- Compile with gcc -Wall (no warnings)"]

def countText (count : Nat) : String :=
  toString count

def groupLines (group : Kind × List Finding) : List String :=
  (group.1.label ++ " (" ++ countText group.2.length ++ " violations):") ::
    group.2.map (fun finding => "  " ++ finding.entry) ++ [""]

def body (report : Report) : List String :=
  if report.findings = [] then
    ["✅ No style violations found!", "",
      "Files checked: " ++ countText report.checkedFiles.length] ++
      report.checkedFiles.map fun file => "  - " ++ file.display
  else
    ["❌ Found " ++ countText report.findings.length ++ " style violations:", ""] ++
      report.grouped.flatMap groupLines

def textLines (report : Report) : List String :=
  banner ++ report.body ++ reference

def text (report : Report) : String :=
  "\n".intercalate report.textLines

def compact (report : Report) : String :=
  "\n".intercalate (report.findings.map Finding.compact)

end HouseStyle.Report
