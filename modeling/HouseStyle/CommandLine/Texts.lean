import HouseStyle.Finding
import HouseStyle.Rule.Basic

namespace HouseStyle.CommandLine

def joinLines (lines : List String) : String :=
  String.ofList (lines.flatMap fun line => line.toList ++ ['\n'])

def versionText : String :=
  joinLines ["cstyle 0.1.0"]

def helpText : String :=
  joinLines [
    "Coding standards linter for C source and header files",
    "",
    "Usage: cstyle [OPTIONS] [FILES]...",
    "       cstyle [OPTIONS] <COMMAND>"]

def nothingFound : String :=
  joinLines ["No C source files found to check."]

def settingsName : String := "cstyle.toml"

def settingsTemplateLines : List String :=
  [
    "# cstyle configuration",
    "",
    "[analyzer]",
    "# Glob patterns skipped by directory discovery",
    "exclude = [",
    "    \"**/build/**\",",
    "]",
    "",
    "# File extensions picked up by directory discovery",
    "extensions = [\"c\", \"h\"]",
    "",
    "# Respect .gitignore files",
    "respect_gitignore = false",
    "",
    "# Rule configurations",
    "# Each rule can be enabled/disabled by name or code (CS001..CS006)",
    "",
    "[rules.header]",
    "enabled = true",
    "scan_lines = 20",
    "window = 15",
    "",
    "[rules.function-doc]",
    "enabled = true",
    "window = 10",
    "",
    "[rules.indentation]",
    "enabled = true",
    "",
    "[rules.header-guard]",
    "enabled = true",
    "",
    "[rules.error-handling]",
    "enabled = true",
    "functions = [\"malloc\", \"fopen\", \"fprintf\", \"fscanf\", \"fclose\"]",
    "lookahead = 4",
    "",
    "[rules.compilation]",
    "enabled = true",
    "compiler = \"gcc\"",
    "flags = [\"-Wall\"]",
    "# timeout_secs = 30"]

def settingsTemplate : String :=
  joinLines settingsTemplateLines

def settingsWritten : String :=
  joinLines [
    "Created " ++ settingsName,
    "",
    "Next steps:",
    "  1. Edit " ++ settingsName ++ " to configure rules",
    "  2. Run: cstyle --dir . --recursive"]

def cell (width : Nat) (text : String) : String :=
  text ++ String.ofList (List.replicate (width - text.length) ' ')

def tableRow (code name description : String) : String :=
  cell 8 code ++ " " ++ cell 16 name ++ " " ++ description

def ruleTable : String :=
  joinLines (
    ["Available rules:", "", tableRow "Code" "Name" "Description",
      String.ofList (List.replicate 80 '-')] ++
    RuleId.all.map (fun rule => tableRow rule.code rule.name rule.description) ++
    ["", "Unreadable inputs are reported as " ++ Kind.fileError.label ++ " and never stop the run.",
      "", "Use --rules to filter specific rules, e.g.:",
      "  cstyle --rules header,header-guard src/*.c",
      "  cstyle --rules CS001,CS004 --dir src"])

end HouseStyle.CommandLine
