import HouseStyle.Analysis
import HouseStyle.Host.Process

namespace HouseStyle

/-- What an inspection leads to: what is to be reported, what is to be said about the inspection
itself, and the host as it is then. -/
structure Inspection where
  report : Report := .empty
  warnings : List String := []
  host : Host

namespace Inspection

variable (processes : Processes)

/-- The rule for a file on a host, with what the compiler finds out there, and the host after
that. -/
def ruleFor (settings : Settings) (host : Host) (path : Path) (id : RuleId) : Rule × Host :=
  if id = .compilation then
    let (result, host) := host.runCompiler processes (.ofSection (settings.optionsOf id)) path
    (.compilation fun _ => result, host)
  else (settings.rule (host.compile processes) id, host)

def checkRule (settings : Settings) (source : Source) (inspection : Inspection) (id : RuleId) :
    Inspection :=
  if settings.isRuleEnabled id && id.appliesTo source then
    let (rule, host) := ruleFor processes settings inspection.host source.path id
    { report := { inspection.report with
        findings := inspection.report.findings ++ rule.check source }
      warnings := inspection.warnings ++ rule.warnings source
      host }
  else inspection

def ofSource (settings : Settings) (ids : List RuleId) (host : Host) (source : Source) :
    Inspection :=
  ids.foldl (checkRule processes settings source) { report := ⟨[], [source.path]⟩, host }

def ofFile (settings : Settings) (ids : List RuleId) (host : Host) (path : Path) : Inspection :=
  match Analyzer.readSource host.read path with
  | .ok source => ofSource processes settings ids host source
  | .error error =>
    let message := Analyzer.readErrorMessage error
    { report := ⟨[⟨.fileError, .wholeFile path, message⟩], []⟩
      warnings := [path.display ++ ": " ++ message]
      host }

def append (first second : Inspection) : Inspection :=
  { report := ⟨first.report.findings ++ second.report.findings,
      first.report.checkedFiles ++ second.report.checkedFiles⟩
    warnings := first.warnings ++ second.warnings
    host := second.host }

def each {α : Type} (inspect : Host → α → Inspection) (host : Host) : List α → Inspection
  | [] => { host }
  | first :: rest =>
    let inspection := inspect host first
    inspection.append (each inspect inspection.host rest)

def ofFiles (settings : Settings) (ids : List RuleId) (host : Host) (files : List Path) :
    Inspection :=
  each (ofFile processes settings ids) host files

def log (inspection : Inspection) (files rules : Nat) : List LogLine :=
  [⟨.info, "Checking " ++ toString files ++ " file(s) with " ++ toString rules ++ " rule(s)"⟩] ++
  inspection.warnings.map (⟨.warn, ·⟩) ++
  [⟨.info, "Analysis complete: " ++ toString inspection.report.findings.length ++
    " violations in " ++ toString inspection.report.checkedFiles.length ++ " files"⟩]

end Inspection

end HouseStyle
