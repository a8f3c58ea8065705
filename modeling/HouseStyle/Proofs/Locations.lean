import HouseStyle.Proofs.Inspection
import HouseStyle.Proofs.Lines

namespace HouseStyle
open Text

/-! ## Rules that point at lines -/

structure OnLine (source : Source) (finding : Finding) : Prop where
  file : finding.location.file = source.path
  first : 1 ≤ finding.location.line
  last : finding.location.line ≤ max 1 source.lines.length
  message : '\n' ∉ finding.message.toList

variable {source : Source} {finding : Finding}

theorem OnLine.top (source : Source) (kind : Kind) {message : String}
    (oneLine : '\n' ∉ message.toList) : OnLine source ⟨kind, ⟨source.path, 1⟩, message⟩ :=
  ⟨rfl, le_rfl, le_max_left _ _, oneLine⟩

theorem OnLine.inside {offset : Nat} (inside : offset < source.lines.length) (kind : Kind)
    {message : String} (oneLine : '\n' ∉ message.toList) :
    OnLine source ⟨kind, ⟨source.path, 1 + offset⟩, message⟩ := by
  refine ⟨rfl, Nat.le_add_right 1 offset, ?_, oneLine⟩
  change 1 + offset ≤ max 1 source.lines.length
  omega

theorem HeaderRule.onLine_of_mem_check {rule : HeaderRule} (member : finding ∈ rule.check source) :
    OnLine source finding := by
  have messages : ∀ field ∈ requiredFields,
      '\n' ∉ ("Header missing '" ++ field ++ "' field").toList := by
    decide
  rcases mem_check member with rfl | ⟨field, isField, rfl⟩
  · exact .top source .header (by decide)
  · exact .top source .header (messages field isField)

theorem HeaderGuardRule.onLine_of_mem_check (member : finding ∈ check source) :
    OnLine source finding := by
  rw [mem_check member]
  exact .top source .headerGuard (by decide)

theorem newline_notMem_name {lines : List Line} {definition : Definition}
    (member : definition ∈ definitions lines) : '\n' ∉ definition.name := by
  obtain ⟨index, line, -, -, reading, named, -⟩ := DefinitionGrammar.mem_definitions_iff.mp member
  intro inName
  rw [← named] at inName
  have word := reading.name_chars '\n' inName
  rw [isWordChar_of_isBlank (by decide)] at word
  contradiction

theorem FunctionDocRule.onLine_of_mem_check {rule : FunctionDocRule}
    (member : finding ∈ rule.check source) : OnLine source finding := by
  obtain ⟨definition, isDefinition, rfl⟩ := mem_check member
  obtain ⟨index, line, number, isCode, -⟩ := DefinitionGrammar.mem_definitions_iff.mp isDefinition
  have inside := (List.getElem?_eq_some_iff.mp (getElem?_of_mem_codeLines isCode)).1
  rw [FunctionDocRule.finding, number, Nat.add_comm]
  exact .inside inside .functionDoc (by simp [newline_notMem_name isDefinition])

theorem IndentationRule.onLine_of_mem_check (member : finding ∈ check source) :
    OnLine source finding := by
  obtain ⟨offset, unit, inside, rfl⟩ := mem_checkFrom member
  exact .inside inside .indentation (by simp [notMem_toDigits])

theorem ErrorHandlingRule.newline_notMem_called {rule : ErrorHandlingRule} {line : Line}
    {function : String} (called : function ∈ rule.assignedCalls line) (oneLine : '\n' ∉ line) :
    '\n' ∉ function.toList := by
  rw [assignedCalls] at called
  split at called
  · have stands : (function ++ "(").toList <:+: line := by
      rw [← occursIn_iff_infix]
      exact (List.mem_filter.mp called).2
    intro inName
    exact oneLine (stands.subset (by simp [inName]))
  · simp at called

theorem ErrorHandlingRule.onLine_of_mem_check {rule : ErrorHandlingRule}
    (oneLine : ∀ line ∈ source.lines, '\n' ∉ line) (member : finding ∈ rule.check source) :
    OnLine source finding := by
  rcases List.mem_append.mp member with calls | output
  · obtain ⟨offset, line, function, located, called, rfl⟩ := mem_uncheckedCalls calls
    have inside := (List.getElem?_eq_some_iff.mp located).1
    have name := newline_notMem_called called (oneLine line (List.mem_of_getElem? located))
    exact .inside inside .errorHandling (by simp [name])
  · obtain ⟨offset, inside, rfl⟩ := mem_misdirectedOutput output
    exact .inside inside .errorOutput (by decide)

theorem Rule.onLine_of_mem_check {rule : Rule} (other : rule.id ≠ .compilation)
    (oneLine : ∀ line ∈ source.lines, '\n' ∉ line) (member : finding ∈ rule.check source) :
    OnLine source finding := by
  cases rule with
  | header rule => exact HeaderRule.onLine_of_mem_check member
  | functionDoc rule => exact FunctionDocRule.onLine_of_mem_check member
  | indentation => exact IndentationRule.onLine_of_mem_check member
  | headerGuard => exact HeaderGuardRule.onLine_of_mem_check member
  | errorHandling rule => exact ErrorHandlingRule.onLine_of_mem_check oneLine member
  | compilation checker => exact absurd rfl other

/-! ## The compiler -/

theorem CompilationRule.onFile_of_mem_check {checker : Checker}
    (member : finding ∈ check checker source) :
    finding.location = .wholeFile source.path ∧
      ('\n' ∈ finding.message.toList →
        ∃ error, checker source.path = .error error ∧ finding.message = error.message) := by
  rcases mem_check member with ⟨diagnostics, -, line, isLine, rfl⟩ | ⟨error, failed, rfl⟩
  · have oneLine := notMem_of_mem_lines (List.mem_filter.mp isLine).1
    refine ⟨rfl, fun inMessage => ?_⟩
    simp [CompilationRule.finding, oneLine] at inMessage
  · exact ⟨rfl, fun _ => ⟨error, failed, rfl⟩⟩

/-! ## Analyses -/

/-- What holds of the location and the message of a finding about the file at `path` with the
content `text`, where `checker` runs the compiler. -/
structure WellPlaced (path : Path) (text : List Char) (checker : Checker) (finding : Finding) :
    Prop where
  file : finding.location.file = path
  readable : finding.kind ≠ .fileError
  wholeFile : finding.location.line = 0 ↔ finding.kind = .compilation
  onLine : finding.kind ≠ .compilation →
    1 ≤ finding.location.line ∧ finding.location.line ≤ max 1 (lines text).length
  outside : (lines text).length < finding.location.line → text = [] ∧ finding.location.line = 1
  header : finding.kind = .headerGuard → path.extension? = some (Path.ofText "h").bytes
  unit : finding.kind = .compilation → path.extension? = some (Path.ofText "c").bytes
  message : '\n' ∈ finding.message.toList → finding.kind = .compilation ∧
    ∃ error, checker path = .error error ∧ finding.message = error.message

theorem WellPlaced.of_onLine {path : Path} {text : List Char} {checker : Checker} {id : RuleId}
    (isKind : finding.kind ∈ id.kinds) (other : id ≠ .compilation)
    (applies : id.appliesTo (.ofText path text) = true)
    (onLine : OnLine (.ofText path text) finding) : WellPlaced path text checker finding := by
  have first := onLine.first
  have last : finding.location.line ≤ max 1 (lines text).length := onLine.last
  have notCompilation : finding.kind ≠ .compilation := by
    intro same
    rw [same] at isKind
    exact other (RuleId.eq_of_mem_kinds isKind List.mem_cons_self)
  refine ⟨onLine.file, ?_, ?_, fun _ => ⟨first, last⟩, ?_, ?_, ?_, ?_⟩
  · intro same
    rw [same] at isKind
    cases id <;> simp [RuleId.kinds] at isKind
  · exact iff_of_false (by omega) notCompilation
  · intro outside
    have noLines : (lines text).length = 0 := by omega
    exact ⟨lines_eq_nil_iff.mp (List.length_eq_zero_iff.mp noLines), by omega⟩
  · intro same
    rw [same] at isKind
    obtain rfl : id = .headerGuard := RuleId.eq_of_mem_kinds isKind List.mem_cons_self
    exact of_decide_eq_true applies
  · exact fun same => absurd same notCompilation
  · exact fun inMessage => absurd inMessage onLine.message

theorem WellPlaced.of_compilation {path : Path} {text : List Char} {checker : Checker}
    (isUnit : (Source.ofText path text).isUnit = true)
    (member : finding ∈ CompilationRule.check checker (.ofText path text)) :
    WellPlaced path text checker finding := by
  obtain ⟨location, message⟩ := CompilationRule.onFile_of_mem_check member
  have kind : finding.kind = .compilation :=
    List.mem_singleton.mp (Rule.kind_mem_kinds (.compilation checker) member)
  have line : finding.location.line = 0 := by rw [location]; rfl
  refine ⟨by rw [location]; rfl, by simp [kind], iff_of_true line kind,
    fun other => absurd kind other, fun outside => ?_, by simp [kind],
    fun _ => of_decide_eq_true isUnit, fun inMessage => ⟨kind, message inMessage⟩⟩
  omega

namespace Settings

variable {settings : Settings} {checkerOf : Compiler → Checker} {path : Path} {text : List Char}

theorem wellPlaced_of_mem_reported {id : RuleId}
    (member : finding ∈ settings.reported checkerOf (.ofText path text) id) :
    WellPlaced path text (checkerOf (.ofSection (settings.optionsOf .compilation))) finding := by
  obtain ⟨-, applies, reported⟩ := mem_reported_iff.mp member
  by_cases isCompilation : id = .compilation
  · subst isCompilation
    exact .of_compilation applies reported
  · have kind := Rule.kind_mem_kinds _ reported
    have onLine := Rule.onLine_of_mem_check (by rwa [id_rule]) (fun line => notMem_of_mem_lines)
      reported
    rw [id_rule] at kind
    exact .of_onLine kind isCompilation applies onLine

theorem wellPlaced_of_mem
    (member : finding ∈ (settings.analyzer checkerOf).analyzeSource (.ofText path text)) :
    WellPlaced path text (checkerOf (.ofSection (settings.optionsOf .compilation))) finding := by
  rw [analyzeSource_analyzer, List.mem_flatMap] at member
  obtain ⟨id, -, reported⟩ := member
  exact wellPlaced_of_mem_reported reported

/-- Every finding of an analysis is well placed, whatever the settings, the path, the text and the
outcome of the compiler; and so is every finding of an inspection of a file on a host. -/
theorem findings_wellPlaced (settings : Settings) (checkerOf : Compiler → Checker) (path : Path)
    (text : List Char) :
    (∀ finding ∈ (settings.analyzer checkerOf).analyzeSource (.ofText path text),
      WellPlaced path text (checkerOf (.ofSection (settings.optionsOf .compilation))) finding) ∧
    ∀ (processes : Processes) (host : Host), ∀ finding ∈
      (Inspection.ofSource processes settings RuleId.all host (.ofText path text)).report.findings,
      WellPlaced path text (host.compile processes (.ofSection (settings.optionsOf .compilation)))
        finding := by
  refine ⟨fun finding => wellPlaced_of_mem, fun processes host finding member => ?_⟩
  rw [Inspection.findings_ofSource settings (by decide)] at member
  exact wellPlaced_of_mem member

theorem findings_wellPlaced_empty :
    let checkerOf : Compiler → Checker := fun _ _ => .error (.notFound "a\nb")
    let header : Finding := ⟨.header, ⟨"x.c", 1⟩, "Missing file header comment"⟩
    let compiler : Finding := ⟨.compilation, ⟨"x.c", 0⟩, "a\nb not found - cannot test compilation"⟩
    (Settings.analyzer {} checkerOf).analyzeSource (.ofText "x.c" []) = [header, compiler] ∧
    WellPlaced "x.c" [] (checkerOf {}) header ∧ WellPlaced "x.c" [] (checkerOf {}) compiler := by
  intro checkerOf header compiler
  have found : (Settings.analyzer {} checkerOf).analyzeSource (.ofText "x.c" []) =
      [header, compiler] := by
    decide +kernel
  have placed := (findings_wellPlaced {} checkerOf "x.c" []).1
  exact ⟨found, placed header (by simp [found]), placed compiler (by simp [found])⟩

end Settings

end HouseStyle
