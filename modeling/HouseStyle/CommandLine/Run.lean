import HouseStyle.CommandLine.Basic
import HouseStyle.CommandLine.Parse
import HouseStyle.CommandLine.Texts
import HouseStyle.Host.Inspection
import HouseStyle.Search.Basic
import HouseStyle.Settings.Location

namespace HouseStyle

inductive Failure where
  | settingsNotLoaded (path : Path)
  | search (error : SearchError)
  | reportNotRendered (error : RenderError)
  | reportNotWritten (path : Path)
  | settingsExist
  | settingsNotWritten
  deriving DecidableEq, Repr

namespace Failure

def message : Failure → String
  | settingsNotLoaded path => "Failed to load config: " ++ path.display
  | search error => error.message
  | reportNotRendered error => error.message
  | reportNotWritten path => "Failed to write report: " ++ path.display
  | settingsExist =>
    "Configuration file already exists at " ++ CommandLine.settingsName ++
      ". Use --force to overwrite."
  | settingsNotWritten => "Failed to write " ++ CommandLine.settingsName

end Failure

inductive Ending where
  | finished (exitCode : Nat)
  | failed (failure : Failure)
  | misused
  deriving DecidableEq, Repr

namespace Ending

def exitCode : Ending → Nat
  | finished code => code
  | failed _ => 1
  | misused => 2

end Ending

structure RunResult where
  ending : Ending
  output : String := ""
  log : List LogLine := []
  host : Host

namespace CheckOptions

/-- The files to check. Without any file or directory it is those of the directory `base`. Paths
are sorted, and of those that are the same the first stays. -/
def collect (options : CheckOptions) (search : Search) (host : Host) (base : Path) :
    Except SearchError SearchResult := do
  let found ←
    if options.files.isEmpty && options.directory.isNone then
      search.inDirectory host base false
    else do
      let searched ← match options.directory with
        | some directory => search.inDirectory host directory options.recursive
        | none => pure {}
      let named := Search.existing host options.files
      pure ⟨searched.files ++ named.files, searched.log ++ named.log⟩
  pure { found with files := Path.dropRepeated (Path.sort found.files) }

def ruleNames (list : String) : List String :=
  ((Text.splitAt ',' list.toList).map Text.trim |>.filter (· ≠ [])).map String.ofList

/-- The rules to run. A rule that is named twice runs once, where it is named first. -/
def ruleIds (options : CheckOptions) : List RuleId :=
  match options.rules with
  | none => RuleId.all
  | some list => ((ruleNames list).filterMap RuleId.find?).eraseDups

def unknownRules (options : CheckOptions) : List String :=
  ((options.rules.map ruleNames).getD []).filter fun name => (RuleId.find? name).isNone

/-- Print the report, or write it to the output file. A report that cannot be rendered goes
nowhere. -/
def emit (options : CheckOptions) (report : Report) (host : Host) (log : List LogLine) :
    RunResult :=
  match report.render options.format, options.output with
  | .error error, _ => { ending := .failed (.reportNotRendered error), log, host }
  | .ok text, none => { ending := .finished report.exitCode, output := text ++ "\n", log, host }
  | .ok text, some path =>
    match host.write path (Text.encode text.toList) with
    | .ok host =>
      { ending := .finished report.exitCode
        output := host.printed ++ CommandLine.joinLines ["Report written to " ++ path.display]
        log, host }
    | .error _ => { ending := .failed (.reportNotWritten path), log, host }

def check (processes : Processes) (options : CheckOptions) (settings : Settings) (host : Host)
    (log : List LogLine) : RunResult :=
  let found := do
    let search ← Search.ofSettings settings.search options.exclude
    options.collect search host "."
  match found with
  | .error error => { ending := .failed (.search error), log, host }
  | .ok found =>
    let log := log ++ found.log
    if found.files.isEmpty then
      { ending := .finished 1, output := CommandLine.nothingFound, log, host }
    else
      let unknown := options.unknownRules.map fun name => ⟨.warn, "Unknown rule: " ++ name⟩
      let inspection := Inspection.ofFiles processes settings options.ruleIds host found.files
      options.emit inspection.report inspection.host
        (log ++ unknown ++ inspection.log found.files.length options.ruleIds.length)

end CheckOptions

namespace SettingsSource

def log : SettingsSource → List LogLine
  | user path => [⟨.info, "Using global config: " ++ path.display⟩]
  | _ => []

def settings (source : SettingsSource) (host : Host) : Except Failure Settings :=
  match source.path? with
  | none => .ok {}
  | some path => (Settings.load host path).mapError fun _ => .settingsNotLoaded path

end SettingsSource

namespace Action

def runWriteSettings (force : Bool) (host : Host) : RunResult :=
  if host.exists? CommandLine.settingsName && !force then { ending := .failed .settingsExist, host }
  else
    match host.write CommandLine.settingsName (Text.encode CommandLine.settingsTemplate.toList) with
    | .ok host =>
      { ending := .finished 0, output := host.printed ++ CommandLine.settingsWritten, host }
    | .error _ => { ending := .failed .settingsNotWritten, host }

def run (processes : Processes) (named : Option Path) (host : Host) : Action → RunResult
  | listRules => { ending := .finished 0, output := CommandLine.ruleTable, host }
  | writeSettings force => runWriteSettings force host
  | check options =>
    let source := SettingsSource.resolve host "." named
    match source.settings host with
    | .error failure => { ending := .failed failure, log := source.log, host }
    | .ok settings => options.check processes settings host source.log

end Action

namespace CommandLine

def shownLog (verbose : Bool) (log : List LogLine) : List LogLine :=
  (log.filter fun line => verbose || line.level = .warn).map LogLine.shown

def run (processes : Processes) (commandLine : CommandLine) (host : Host) : RunResult :=
  match commandLine with
  | .version => { ending := .finished 0, output := versionText, host }
  | .help => { ending := .finished 0, output := helpText, host }
  | .misuse => { ending := .misused, host }
  | .order asked =>
    let result := asked.action.run processes asked.settings host
    { result with log := shownLog asked.verbose result.log }

end CommandLine

end HouseStyle
