import HouseStyle.Proofs.Collection
import HouseStyle.Proofs.Distinct
import HouseStyle.Proofs.FileByFile
import HouseStyle.Proofs.Locations
import HouseStyle.Proofs.ReportJson
import HouseStyle.Proofs.WrittenFiles

/-!
# What the exit status of a check says

A check that gets as far as the files ends with status 0 exactly if there were files and nothing is
to be said about any of them. Where the report goes makes no difference, and a report that goes to a
file is the one that would have been printed. How it is laid out makes one: names that are no texts
cannot be written as JSON, and then the run fails, whatever is found.

* `Inspection.findings_ofFiles_eq_nil_iff`: when an inspection finds nothing.
* `Inspection.mem_paths_ofFiles`: its report names the files, and no others.
* `CheckOptions.Prepared`: a check gets as far as the files.
* `CheckOptions.runWith_of_ne_nil` and `CheckOptions.runWith_of_nil`: what it does then.
-/

namespace HouseStyle

/-! ## When nothing is found -/

namespace Report

theorem exitCode_cases (report : Report) : report.exitCode = 0 ∨ report.exitCode = 1 := by
  rw [exitCode]
  split <;> simp

theorem exitCode_eq_zero_iff (report : Report) : report.exitCode = 0 ↔ report.findings = [] := by
  rw [exitCode]
  split <;> simp_all

end Report

namespace Inspection

variable {processes : Processes} {settings : Settings} {ids : List RuleId} {host : Host}

def Clean (processes : Processes) (settings : Settings) (ids : List RuleId) (host : Host)
    (path : Path) : Prop :=
  ∃ bytes, host.read path = .ok bytes ∧ (analyzerOn processes settings ids host).analyzeSource
    (.ofText path (Text.decodeLossy bytes)) = []

theorem findings_ofFile_eq_nil_iff (once : ids.Nodup) (host : Host) (path : Path) :
    (ofFile processes settings ids host path).report.findings = [] ↔
      Clean processes settings ids host path := by
  rw [ofFile, Analyzer.readSource, Clean]
  cases host.read path with
  | error error => simp [Except.map]
  | ok bytes => simp [Except.map, findings_ofSource settings once, analyzerOn]

/-- Each of the files is clean when its turn comes, on the host that the inspection of the files before
it leaves. -/
def CleanInTurn (processes : Processes) (settings : Settings) (ids : List RuleId) (host : Host)
    (files : List Path) : Prop :=
  ∀ before path after, files = before ++ path :: after →
    Clean processes settings ids (ofFiles processes settings ids host before).host path

theorem findings_ofFiles_eq_nil_iff (once : ids.Nodup) (host : Host) (files : List Path) :
    (ofFiles processes settings ids host files).report.findings = [] ↔
      CleanInTurn processes settings ids host files := by
  induction files generalizing host with
  | nil => simp [ofFiles, each, Report.empty, CleanInTurn]
  | cons first rest ih =>
      have parts : (ofFiles processes settings ids host (first :: rest)).report.findings =
          (ofFile processes settings ids host first).report.findings ++
            (ofFiles processes settings ids
              (ofFile processes settings ids host first).host rest).report.findings := rfl
      rw [parts, List.append_eq_nil_iff, findings_ofFile_eq_nil_iff once, ih]
      constructor
      · rintro ⟨here, later⟩ before path after parts
        cases before with
        | nil =>
            obtain ⟨rfl, rfl⟩ := List.cons.inj parts
            exact here
        | cons other before =>
            obtain ⟨rfl, same⟩ := List.cons.inj parts
            exact later before path after same
      · intro clean
        refine ⟨clean [] first rest rfl, fun before path after parts => ?_⟩
        exact clean (first :: before) path after (by rw [parts]; rfl)

theorem cleanInTurn_of_unchanged {files : List Path}
    (unchanged : ∀ path ∈ files, Unchanged processes settings host path) :
    CleanInTurn processes settings ids host files ↔
      ∀ path ∈ files, Clean processes settings ids host path := by
  have same {before after : List Path} {path : Path} (parts : files = before ++ path :: after) :
      (ofFiles processes settings ids host before).host = host :=
    (ofFiles_of_unchanged (fun other member => unchanged other (by simp [parts, member])) ids).2
  constructor
  · intro clean path member
    obtain ⟨before, after, parts⟩ := List.append_of_mem member
    have here := clean before path after parts
    rwa [same parts] at here
  · intro clean before path after parts
    rw [same parts]
    exact clean path (by simp [parts])

/-! ## The paths in a report -/

theorem checkedFiles_ofSource (ids : List RuleId) (source : Source) :
    (ofSource processes settings ids host source).report.checkedFiles = [source.path] := by
  rw [ofSource, checkedFiles_foldl]

theorem mem_paths_ofFile (once : ids.Nodup) (host : Host) (path other : Path) :
    other ∈ (ofFile processes settings ids host path).report.paths ↔ other = path := by
  rw [ofFile, Analyzer.readSource]
  cases host.read path with
  | error error => simp [Except.map, Report.paths, Location.wholeFile]
  | ok bytes =>
      simp only [Except.map, Report.paths, checkedFiles_ofSource, findings_ofSource settings once,
        Settings.analyzeSource_rules, List.mem_append, List.mem_map, List.mem_flatMap,
        List.mem_singleton]
      refine ⟨?_, .inr⟩
      rintro (⟨finding, ⟨id, -, reported⟩, rfl⟩ | same)
      · exact (Settings.wellPlaced_of_mem_reported reported).file
      · exact same

theorem mem_paths_ofFiles (once : ids.Nodup) (host : Host) (files : List Path) (path : Path) :
    path ∈ (ofFiles processes settings ids host files).report.paths ↔ path ∈ files := by
  induction files generalizing host with
  | nil => simp [ofFiles, each, Report.empty, Report.paths]
  | cons first rest ih =>
      have parts : path ∈ (ofFiles processes settings ids host (first :: rest)).report.paths ↔
          path ∈ (ofFile processes settings ids host first).report.paths ∨
            path ∈ (ofFiles processes settings ids
              (ofFile processes settings ids host first).host rest).report.paths := by
        simp only [ofFiles, each, append, Report.paths, List.map_append, List.mem_append]
        tauto
      rw [parts, mem_paths_ofFile once, ih, List.mem_cons]

end Inspection

namespace CheckOptions

variable {processes : Processes} {options : CheckOptions} {named : Option Path} {host : Host}
  {settings : Settings} {files : List Path}

theorem nodup_ruleIds (options : CheckOptions) : options.ruleIds.Nodup := by
  rw [ruleIds]
  split
  · decide
  · exact nodup_eraseDups _

/-! ## The report goes somewhere -/

theorem ending_emit {report : Report} {text : String}
    (rendered : report.render options.format = .ok text)
    (can : ∀ path, options.output = some path → host.canWrite path = true) (log : List LogLine) :
    (options.emit report host log).ending = .finished report.exitCode := by
  rw [emit, rendered]
  cases output : options.output with
  | none => rfl
  | some path =>
      obtain ⟨written, write⟩ := Host.exists_write (can path output) (Text.encode text.toList)
      simp only [write]

theorem emit_of_error {report : Report} {error : RenderError}
    (unrendered : report.render options.format = .error error) (log : List LogLine) :
    options.emit report host log = { ending := .failed (.reportNotRendered error), log, host } := by
  rw [emit, unrendered]

theorem read_emit {report : Report} {text : String}
    (rendered : report.render options.format = .ok text) {path : Path}
    (output : options.output = some path) (leads : host.LeadsToFile path) (log : List LogLine) :
    (options.emit report host log).host.read path = .ok (Text.encode text.toList) := by
  obtain ⟨written, write, holds⟩ := Host.read_of_leadsToFile leads (Text.encode text.toList)
  simp only [emit, rendered, output, write]
  exact holds

/-! ## A check that gets as far as the files -/

structure Prepared (options : CheckOptions) (named : Option Path) (host : Host)
    (settings : Settings) (files : List Path) : Prop where
  loaded : (SettingsSource.resolve host "." named).settings host = .ok settings
  collected : ∃ search log, Search.ofSettings settings.search options.exclude = .ok search ∧
    options.collect search host "." = .ok ⟨files, log⟩

def runWith (processes : Processes) (options : CheckOptions) (verbose : Bool) (named : Option Path)
    (host : Host) (format : Format) (output : Option Path) : RunResult :=
  (CommandLine.order ⟨verbose, named, .check { options with format, output }⟩).run processes host

def inspected (processes : Processes) (options : CheckOptions) (settings : Settings) (host : Host)
    (files : List Path) : Inspection :=
  Inspection.ofFiles processes settings options.ruleIds host files

theorem runWith_eq (loaded : (SettingsSource.resolve host "." named).settings host = .ok settings)
    (verbose : Bool) (format : Format) (output : Option Path) :
    options.runWith processes verbose named host format output =
      let result := { options with format, output }.check processes settings host
        (SettingsSource.resolve host "." named).log
      { result with log := CommandLine.shownLog verbose result.log } := by
  simp only [runWith, CommandLine.run, Action.run, loaded]

theorem runWith_of_nil (prepared : options.Prepared named host settings []) (verbose : Bool)
    (format : Format) (output : Option Path) :
    (options.runWith processes verbose named host format output).ending = .finished 1 := by
  obtain ⟨loaded, search, log, valid, collected⟩ := prepared
  rw [runWith_eq loaded]
  simp only [check, valid]
  have found : { options with format, output }.collect search host "." = .ok ⟨[], log⟩ := collected
  simp only [bind, Except.bind, found, List.isEmpty_nil, if_true]

theorem runWith_of_ne_nil (processes : Processes)
    (prepared : options.Prepared named host settings files) (verbose : Bool) (ne_nil : files ≠ [])
    (format : Format) (output : Option Path) : ∃ log shown,
      options.runWith processes verbose named host format output =
        { { options with format, output }.emit
            (options.inspected processes settings host files).report
            (options.inspected processes settings host files).host log with log := shown } := by
  obtain ⟨loaded, search, log, valid, collected⟩ := prepared
  have found : { options with format, output }.collect search host "." = .ok ⟨files, log⟩ :=
    collected
  have nonempty : files.isEmpty = false := List.isEmpty_eq_false_iff.mpr ne_nil
  rw [runWith_eq loaded]
  simp only [check, valid, bind, Except.bind, found, nonempty]
  exact ⟨_, _, rfl⟩

/-- The names of the files can be written in the format. -/
def CanName (format : Format) (files : List Path) : Prop :=
  format = .json → ∀ path ∈ files, path.IsText

theorem exists_render_inspected {format : Format} (names : CanName format files) :
    ∃ text, (options.inspected processes settings host files).report.render format = .ok text := by
  cases format with
  | text => exact ⟨_, rfl⟩
  | compact => exact ⟨_, rfl⟩
  | json =>
      have texts : ∀ path ∈ (options.inspected processes settings host files).report.paths,
          path.IsText := by
        intro path member
        rw [inspected, Inspection.mem_paths_ofFiles options.nodup_ruleIds] at member
        exact names rfl path member
      obtain ⟨value, -, rendered⟩ := Report.exists_render_json texts
      exact ⟨_, rendered⟩

theorem render_inspected_of_not_canName {format : Format} (unnamed : ¬ CanName format files) :
    (options.inspected processes settings host files).report.render format =
      .error .pathNotText := by
  rw [CanName, Classical.not_imp] at unnamed
  obtain ⟨rfl, other⟩ := unnamed
  refine Report.render_json_of_not_isText fun texts => other fun path member => texts path ?_
  exact (Inspection.mem_paths_ofFiles options.nodup_ruleIds host files path).mpr member

section WithFiles

variable (prepared : options.Prepared named host settings files) (verbose : Bool)
  (ne_nil : files ≠ []) {format : Format} {output : Option Path} {text : String}

include prepared ne_nil

theorem host_runWith : (options.runWith processes verbose named host .text none).host =
    (options.inspected processes settings host files).host := by
  obtain ⟨log, shown, ran⟩ := runWith_of_ne_nil processes prepared verbose ne_nil .text none
  rw [ran]
  rfl

theorem output_runWith
    (rendered : (options.inspected processes settings host files).report.render format = .ok text) :
    (options.runWith processes verbose named host format none).output = text ++ "\n" := by
  obtain ⟨log, shown, ran⟩ := runWith_of_ne_nil processes prepared verbose ne_nil format none
  simp only [ran, emit, rendered]

theorem ending_runWith
    (rendered : (options.inspected processes settings host files).report.render format = .ok text)
    (can : ∀ path, output = some path →
      (options.inspected processes settings host files).host.canWrite path = true) :
    (options.runWith processes verbose named host format output).ending =
      .finished (options.inspected processes settings host files).report.exitCode := by
  obtain ⟨log, shown, ran⟩ := runWith_of_ne_nil processes prepared verbose ne_nil format output
  rw [ran]
  exact ending_emit rendered can log

theorem runWith_of_error {error : RenderError}
    (unrendered : (options.inspected processes settings host files).report.render format =
      .error error) :
    let result := options.runWith processes verbose named host format output
    result.ending = .failed (.reportNotRendered error) ∧ result.output = "" ∧
      result.host = (options.inspected processes settings host files).host := by
  obtain ⟨log, shown, ran⟩ := runWith_of_ne_nil processes prepared verbose ne_nil format output
  rw [emit_of_error unrendered] at ran
  simp only [ran, and_self]

theorem read_runWith
    (rendered : (options.inspected processes settings host files).report.render format = .ok text)
    {path : Path}
    (leads : (options.inspected processes settings host files).host.LeadsToFile path) :
    (options.runWith processes verbose named host format (some path)).host.read path =
      .ok (Text.encode text.toList) := by
  obtain ⟨log, shown, ran⟩ := runWith_of_ne_nil processes prepared verbose ne_nil format (some path)
  rw [ran]
  exact read_emit rendered rfl leads log

end WithFiles

theorem findings_inspected_eq_nil_iff :
    (options.inspected processes settings host files).report.findings = [] ↔
      Inspection.CleanInTurn processes settings options.ruleIds host files :=
  Inspection.findings_ofFiles_eq_nil_iff options.nodup_ruleIds host files

/-- The exit status of a check tells the truth, unless the report is to be JSON and names a file
whose name is no text. If the settings are loaded, the patterns are valid and the search succeeds,
then there is a status 0 or 1, and it is 0 exactly if there are files to check, all of them can be
read and nothing is found in any; where the compiler leaves the host alone, this is about the host as
it is at the start. With this status the run ends in every format that can name the files, whether
the report is printed or goes to an output that can be written; in one that cannot, the run fails, and
nothing is printed or written. And if the output is a file, it then holds the text that would have
been printed, without the line feed at its end. -/
theorem exitStatus_truthful (processes : Processes)
    (prepared : options.Prepared named host settings files) (verbose : Bool) :
    let run := options.runWith processes verbose named host
    let final := (run .text none).host
    (∃ code, (code = 0 ∨ code = 1) ∧
      (code = 0 ↔ files ≠ [] ∧
        Inspection.CleanInTurn processes settings options.ruleIds host files) ∧
      ((∀ path ∈ files, Inspection.Unchanged processes settings host path) →
        (code = 0 ↔ files ≠ [] ∧
          ∀ path ∈ files, Inspection.Clean processes settings options.ruleIds host path)) ∧
      ∀ format output, (∀ path, output = some path → final.canWrite path = true) →
        (CanName format files → (run format output).ending = .finished code) ∧
        (¬ CanName format files →
          (run format output).ending = .failed (.reportNotRendered .pathNotText) ∧
          (run format output).output = "" ∧ (run format output).host = final)) ∧
    (files ≠ [] → ∀ format path, CanName format files → final.LeadsToFile path → ∃ text,
      (run format none).output = text ++ "\n" ∧
      (run format (some path)).host.read path = .ok (Text.encode text.toList)) := by
  intro run final
  by_cases empty : files = []
  · subst empty
    refine ⟨⟨1, .inr rfl, by simp, by simp, fun format output _ => ⟨fun _ => ?_, ?_⟩⟩, by simp⟩
    · exact runWith_of_nil prepared verbose format output
    · exact fun unnamed => absurd (by simp [CanName]) unnamed
  · have left : final = (options.inspected processes settings host files).host :=
      host_runWith prepared verbose empty
    rw [left]
    refine ⟨⟨(options.inspected processes settings host files).report.exitCode,
      Report.exitCode_cases _, ?_, fun unchanged => ?_, fun format output can =>
        ⟨fun names => ?_, fun unnamed => ?_⟩⟩, fun _ format path names leads => ?_⟩
    · rw [Report.exitCode_eq_zero_iff, findings_inspected_eq_nil_iff, and_iff_right empty]
    · rw [Report.exitCode_eq_zero_iff, findings_inspected_eq_nil_iff, and_iff_right empty,
        Inspection.cleanInTurn_of_unchanged unchanged]
    · obtain ⟨text, rendered⟩ := exists_render_inspected names
      exact ending_runWith prepared verbose empty rendered can
    · exact runWith_of_error prepared verbose empty (render_inspected_of_not_canName unnamed)
    · obtain ⟨text, rendered⟩ := exists_render_inspected names
      exact ⟨text, output_runWith prepared verbose empty rendered,
        read_runWith prepared verbose empty rendered leads⟩

theorem prepared_singleton {path : Path} (rules : Option String)
    (resolved : SettingsSource.resolve host "." none = .default)
    (there : host.exists? path = true) :
    ({ files := [path], rules } : CheckOptions).Prepared none host {} [path] := by
  refine ⟨by rw [resolved]; rfl, ⟨["c", "h"], [], false⟩, [], rfl, ?_⟩
  have searched : ({ files := [path], rules } : CheckOptions).searched ⟨["c", "h"], [], false⟩ host
      "." = .ok {} := rfl
  rw [collect_eq, searched]
  simp [Except.map, candidates, Search.existing, there, Path.tidy, Path.sort, Path.dropRepeated]

theorem exitStatus_truthful_clean :
    let processes : Processes := fun host _ => (.notFound, host.tree)
    let host : Host := { tree := FileTree.empty.add [] "a.h" (.file []), here := [] }
    let options : CheckOptions := { files := ["a.h"], rules := some "indentation" }
    let run := options.runWith processes false none host
    options.Prepared none host {} ["a.h"] ∧
    (∀ path ∈ [Path.ofText "a.h"], Inspection.Unchanged processes {} host path) ∧
    (run .text none).host.canWrite "r.txt" = true ∧ (run .text none).host.LeadsToFile "r.txt" ∧
    CanName .json ["a.h"] ∧
    (run .json none).ending = .finished 0 ∧ (run .compact (some "r.txt")).ending = .finished 0 ∧
    ∃ text, (run .json none).output = text ++ "\n" ∧
      (run .json (some "r.txt")).host.read "r.txt" = .ok (Text.encode text.toList) := by
  intro processes host options run
  have prepared : options.Prepared none host {} ["a.h"] :=
    prepared_singleton _ (by decide +kernel) (by decide +kernel)
  have unchanged : ∀ path ∈ [Path.ofText "a.h"], Inspection.Unchanged processes {} host path := by
    rw [List.forall_mem_singleton]
    rfl
  have final : (run .text none).host = host :=
    (host_runWith prepared false (by simp)).trans
      (Inspection.ofFiles_of_unchanged unchanged options.ruleIds).2
  have leads : (run .text none).host.LeadsToFile "r.txt" := by
    rw [final]
    exact .free [(Path.ofText "r.txt").bytes] (by decide +kernel)
  have can : (run .text none).host.canWrite "r.txt" = true := by
    rw [final]
    decide +kernel
  have clean : Inspection.Clean processes {} options.ruleIds host "a.h" :=
    ⟨[], by decide +kernel, by decide +kernel⟩
  have names (format : Format) : CanName format ["a.h"] := fun _ => by decide
  obtain ⟨⟨code, -, -, zero, ends⟩, holds⟩ := exitStatus_truthful processes prepared false
  have isZero : code = 0 := (zero unchanged).mpr ⟨by simp, by simpa using clean⟩
  subst isZero
  exact ⟨prepared, unchanged, can, leads, names .json, (ends .json none (by simp)).1 (names .json),
    (ends .compact _ fun path same => Option.some.inj same ▸ can).1 (names .compact),
    holds (by simp) .json _ (names .json) leads⟩

theorem clean_file_fails_as_json :
    let processes : Processes := fun host _ => (.notFound, host.tree)
    let path : Path := ⟨[0xFF, 0x2E, 0x68]⟩
    let host : Host := { tree := FileTree.empty.add [] path (.file []), here := [] }
    let options : CheckOptions := { files := [path], rules := some "indentation" }
    let run := options.runWith processes false none host
    options.Prepared none host {} [path] ∧
    Inspection.Clean processes {} options.ruleIds host path ∧
    (run .text none).ending.exitCode = 0 ∧ (run .compact none).ending.exitCode = 0 ∧
    (run .json none).ending.exitCode = 1 := by
  intro processes path host options run
  have prepared : options.Prepared none host {} [path] :=
    prepared_singleton _ (by decide +kernel) (by decide +kernel)
  have clean : Inspection.Clean processes {} options.ruleIds host path :=
    ⟨[], by decide +kernel, by decide +kernel⟩
  have nothing : (options.inspected processes {} host [path]).report.exitCode = 0 := by
    decide +kernel
  have unrendered : (options.inspected processes {} host [path]).report.render .json =
      .error .pathNotText := by
    decide +kernel
  refine ⟨prepared, clean, ?_, ?_, ?_⟩
  · rw [ending_runWith prepared false (by simp) rfl (by simp), nothing]
    rfl
  · rw [ending_runWith prepared false (by simp) rfl (by simp), nothing]
    rfl
  · rw [(runWith_of_error prepared false (by simp) unrendered).1]
    rfl

end CheckOptions

end HouseStyle
