import HouseStyle.FileTree.Error
import HouseStyle.Log
import HouseStyle.Report.Basic
import HouseStyle.Rule.Catalog

namespace HouseStyle

abbrev FileReader := Path → Except FileError (List UInt8)

structure Analyzer where
  rules : List Rule
  settings : Settings

namespace Analyzer

def activeRules (analyzer : Analyzer) (source : Source) : List Rule :=
  analyzer.rules.filter fun rule =>
    analyzer.settings.isRuleEnabled rule.id && rule.id.appliesTo source

def analyzeSource (analyzer : Analyzer) (source : Source) : List Finding :=
  (analyzer.activeRules source).flatMap (·.check source)

def readSource (read : FileReader) (path : Path) : Except FileError Source :=
  (read path).map fun bytes => Source.ofText path (Text.decodeLossy bytes)

def readErrorMessage (error : FileError) : String :=
  "Error reading file: " ++ error.message

def analyzeFile (analyzer : Analyzer) (read : FileReader) (path : Path) : Report :=
  match readSource read path with
  | .ok source => ⟨analyzer.analyzeSource source, [path]⟩
  | .error error => ⟨[⟨.fileError, .wholeFile path, readErrorMessage error⟩], []⟩

def analyze (analyzer : Analyzer) (read : FileReader) (files : List Path) : Report :=
  let reports := files.map (analyzer.analyzeFile read)
  ⟨reports.flatMap (·.findings), reports.flatMap (·.checkedFiles)⟩

end Analyzer

end HouseStyle
