import HouseStyle.Proofs.Decoding
import HouseStyle.Proofs.Inspection
import Mathlib.Data.List.Forall2

namespace HouseStyle

/-- What the file at a path adds to a report: the findings in the text to which its bytes are decoded,
and its path among the files that were read; or that it cannot be read, and nothing else. -/
inductive Contributes (analyzer : Analyzer) (read : FileReader) (path : Path) : Report → Prop where
  | readable {bytes : List UInt8} {text : List Char} (content : read path = .ok bytes)
      (decoding : Text.Decoding bytes text) :
      Contributes analyzer read path ⟨analyzer.analyzeSource (.ofText path text), [path]⟩
  | unreadable {error : FileError} (failed : read path = .error error) :
      Contributes analyzer read path
        ⟨[⟨.fileError, ⟨path, 0⟩, "Error reading file: " ++ error.message⟩], []⟩

def Report.joined (reports : List Report) : Report :=
  reports.foldr (· ++ ·) .empty

namespace Analyzer

variable {analyzer : Analyzer} {read : FileReader}

theorem analyze_append (files files' : List Path) : analyzer.analyze read (files ++ files') =
    analyzer.analyze read files ++ analyzer.analyze read files' := by
  simp only [analyze, List.map_append, List.flatMap_append]
  rfl

theorem analyze_singleton (path : Path) :
    analyzer.analyze read [path] = analyzer.analyzeFile read path := by
  simp [analyze]

theorem analyze_eq_joined (files : List Path) : analyzer.analyze read files =
    Report.joined (files.map fun path => analyzer.analyze read [path]) := by
  induction files with
  | nil => rfl
  | cons path files ih =>
      rw [← List.singleton_append, analyze_append, ih]
      rfl

theorem contributes_iff {path : Path} {block : Report} :
    Contributes analyzer read path block ↔ analyzer.analyze read [path] = block := by
  rw [analyze_singleton, analyzeFile, readSource]
  constructor
  · intro contributes
    cases contributes with
    | @readable bytes text content decoding =>
        rw [content]
        change Report.mk (analyzer.analyzeSource (.ofText path (Text.decodeLossy bytes))) [path] = _
        rw [Text.decodeLossy_eq_iff.mpr decoding]
    | unreadable failed =>
        rw [failed]
        rfl
  · rintro rfl
    cases content : read path with
    | error error => exact .unreadable content
    | ok bytes => exact .readable content (Text.decodeLossy_eq_iff.mp rfl)

end Analyzer

/-! ## Inspections -/

namespace Inspection

variable {processes : Processes} {settings : Settings} {source : Source} {host : Host}

theorem checkedFiles_checkRule (inspection : Inspection) (id : RuleId) :
    (checkRule processes settings source inspection id).report.checkedFiles =
      inspection.report.checkedFiles := by
  rw [checkRule]
  split <;> rfl

theorem checkedFiles_foldl (ids : List RuleId) (inspection : Inspection) :
    (ids.foldl (checkRule processes settings source) inspection).report.checkedFiles =
      inspection.report.checkedFiles := by
  induction ids generalizing inspection with
  | nil => rfl
  | cons id ids ih => rw [List.foldl_cons, ih, checkedFiles_checkRule]

def Unchanged (processes : Processes) (settings : Settings) (host : Host) (path : Path) : Prop :=
  (host.runCompiler processes (.ofSection (settings.optionsOf .compilation)) path).2 = host

theorem host_checkRule_of_unchanged {inspection : Inspection}
    (unchanged : Unchanged processes settings inspection.host source.path) (id : RuleId) :
    (checkRule processes settings source inspection id).host = inspection.host := by
  by_cases isCompilation : id = .compilation
  · subst isCompilation
    rw [checkRule]
    split
    · exact unchanged
    · rfl
  · exact host_checkRule isCompilation inspection

theorem foldl_of_unchanged {inspection : Inspection}
    (unchanged : Unchanged processes settings inspection.host source.path) (ids : List RuleId) :
    (ids.foldl (checkRule processes settings source) inspection).report =
      ⟨inspection.report.findings ++
        ids.flatMap (settings.reported (inspection.host.compile processes) source),
        inspection.report.checkedFiles⟩ ∧
    (ids.foldl (checkRule processes settings source) inspection).host = inspection.host := by
  induction ids generalizing inspection with
  | nil => simp
  | cons id ids ih =>
      have same := host_checkRule_of_unchanged unchanged id
      have next : Unchanged processes settings
          (checkRule processes settings source inspection id).host source.path := by
        rwa [same]
      obtain ⟨report, after⟩ := ih next
      rw [List.foldl_cons, report, after, same, findings_checkRule, checkedFiles_checkRule]
      simp

def analyzerOn (processes : Processes) (settings : Settings) (ids : List RuleId) (host : Host) :
    Analyzer :=
  ⟨ids.map (settings.rule (host.compile processes)), settings⟩

theorem ofSource_of_unchanged (unchanged : Unchanged processes settings host source.path)
    (ids : List RuleId) :
    (ofSource processes settings ids host source).report =
      ⟨(analyzerOn processes settings ids host).analyzeSource source, [source.path]⟩ ∧
    (ofSource processes settings ids host source).host = host := by
  let start : Inspection := { report := ⟨[], [source.path]⟩, host }
  have start_unchanged : Unchanged processes settings start.host source.path := unchanged
  rw [analyzerOn, Settings.analyzeSource_rules]
  exact foldl_of_unchanged start_unchanged ids

theorem ofFile_of_unchanged {path : Path} (unchanged : Unchanged processes settings host path)
    (ids : List RuleId) :
    (ofFile processes settings ids host path).report =
      (analyzerOn processes settings ids host).analyzeFile host.read path ∧
    (ofFile processes settings ids host path).host = host := by
  rw [ofFile, Analyzer.analyzeFile, Analyzer.readSource]
  cases host.read path with
  | error error => exact ⟨rfl, rfl⟩
  | ok bytes =>
      let source := Source.ofText path (Text.decodeLossy bytes)
      have source_unchanged : Unchanged processes settings host source.path := unchanged
      exact ofSource_of_unchanged source_unchanged ids

theorem ofFiles_of_unchanged {files : List Path}
    (unchanged : ∀ path ∈ files, Unchanged processes settings host path) (ids : List RuleId) :
    (ofFiles processes settings ids host files).report =
      (analyzerOn processes settings ids host).analyze host.read files ∧
    (ofFiles processes settings ids host files).host = host := by
  induction files with
  | nil => exact ⟨rfl, rfl⟩
  | cons path files ih =>
      obtain ⟨report, after⟩ := ofFile_of_unchanged (unchanged path List.mem_cons_self) ids
      have later := ih fun other member => unchanged other (List.mem_cons_of_mem _ member)
      rw [ofFiles] at later
      rw [ofFiles, each, after, ← List.singleton_append, Analyzer.analyze_append,
        Analyzer.analyze_singleton, ← report, ← later.1]
      exact ⟨rfl, later.2⟩

end Inspection

/-! ## Reports -/

/-- Files are analysed one by one, whatever the analyzer and the files. The report on two lists is the
report on the first and then that on the second. A report is made of one block for each file, which
is the only one that the file can give, and in another order of the files the same blocks are put in
another order. A file that holds the bytes of a text gives the findings in that text. And the report
of an inspection is such a report if the compiler, whatever it does, leaves the host alone. -/
theorem analyze_fileByFile (analyzer : Analyzer) (read : FileReader) :
    (∀ files files', analyzer.analyze read (files ++ files') =
      analyzer.analyze read files ++ analyzer.analyze read files') ∧
    (∀ files, ∃ blocks, List.Forall₂ (Contributes analyzer read) files blocks ∧
      analyzer.analyze read files = Report.joined blocks ∧
      ∀ files', files.Perm files' → ∃ blocks', blocks.Perm blocks' ∧
        List.Forall₂ (Contributes analyzer read) files' blocks' ∧
        analyzer.analyze read files' = Report.joined blocks') ∧
    (∀ path block block', Contributes analyzer read path block →
      Contributes analyzer read path block' → block = block') ∧
    (∀ path text, read path = .ok (Text.encode text) →
      Contributes analyzer read path ⟨analyzer.analyzeSource (.ofText path text), [path]⟩) ∧
    ∀ (processes : Processes) (settings : Settings) (ids : List RuleId) (host : Host)
      (files : List Path),
      (∀ path ∈ files, Inspection.Unchanged processes settings host path) →
      (Inspection.ofFiles processes settings ids host files).report =
        (Inspection.analyzerOn processes settings ids host).analyze host.read files := by
  have blocks (files : List Path) : List.Forall₂ (Contributes analyzer read) files
      (files.map fun path => analyzer.analyze read [path]) := by
    rw [List.forall₂_map_right_iff, List.forall₂_same]
    exact fun path _ => Analyzer.contributes_iff.mpr rfl
  refine ⟨Analyzer.analyze_append, fun files => ?_, ?_, ?_, ?_⟩
  · refine ⟨_, blocks files, Analyzer.analyze_eq_joined files, fun files' perm => ?_⟩
    exact ⟨_, perm.map _, blocks files', Analyzer.analyze_eq_joined files'⟩
  · intro path block block' first second
    rw [← Analyzer.contributes_iff.mp first, Analyzer.contributes_iff.mp second]
  · intro path text content
    exact .readable content (Text.decoding_encode text)
  · intro processes settings ids host files unchanged
    exact (Inspection.ofFiles_of_unchanged unchanged ids).1

theorem analyze_fileByFile_mixed :
    let read : FileReader := fun path =>
      if path = "a.h" then .ok (Text.encode ['é']) else if path = "b.h" then .ok [0xC3]
      else .error .notFound
    let analyzer : Analyzer := ⟨[.indentation], {}⟩
    let files : List Path := ["a.h", "b.h", "c.h"]
    let host : Host := { tree := .empty, here := [] }
    let processes : Processes := fun host _ => (.notFound, host.tree)
    read "a.h" = .ok (Text.encode ['é']) ∧
    Contributes analyzer read "a.h" ⟨analyzer.analyzeSource (.ofText "a.h" ['é']), ["a.h"]⟩ ∧
    files.Perm files.reverse ∧
    (∃ blocks, List.Forall₂ (Contributes analyzer read) files blocks ∧
      ∃ blocks', blocks.Perm blocks' ∧
        analyzer.analyze read files.reverse = Report.joined blocks') ∧
    (∀ path ∈ files, Inspection.Unchanged processes {} host path) ∧
    (Inspection.ofFiles processes {} RuleId.all host files).report =
      (Inspection.analyzerOn processes {} RuleId.all host).analyze host.read files := by
  intro read analyzer files host processes
  obtain ⟨-, reports, -, encoded, inspected⟩ := analyze_fileByFile analyzer read
  have content : read "a.h" = .ok (Text.encode ['é']) := rfl
  have perm : files.Perm files.reverse := (List.reverse_perm files).symm
  obtain ⟨blocks, contributed, -, reordered⟩ := reports files
  obtain ⟨blocks', same, -, joined⟩ := reordered files.reverse perm
  have unchanged : ∀ path ∈ files, Inspection.Unchanged processes {} host path := by
    simp only [files, List.forall_mem_cons]
    exact ⟨rfl, rfl, rfl, by simp⟩
  exact ⟨content, encoded "a.h" ['é'] content, perm, ⟨blocks, contributed, blocks', same, joined⟩,
    unchanged, inspected processes {} RuleId.all host files unchanged⟩

end HouseStyle
