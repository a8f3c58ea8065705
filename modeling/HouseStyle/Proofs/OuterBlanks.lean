import HouseStyle.Proofs.Assignment
import HouseStyle.Proofs.RuleFindings

namespace HouseStyle
open Text

/-! ## One line -/

namespace Line

theorem opensComment_trim (line : Line) : opensComment (trim line) = opensComment line :=
  occursIn_trim (by decide) line

theorem closesComment_trim (line : Line) : closesComment (trim line) = closesComment line :=
  occursIn_trim (by decide) line

theorem holds_trim (word : String) (solid : isSolid word.toList = true) (line : Line) :
    holds word (trim line) = holds word line :=
  occursIn_trim solid line

theorem isBlank_trim (line : Line) : isBlank (trim line) = isBlank line := by
  rw [isBlank, isBlank, trim_trim]

theorem any_map_trim {test : Line → Bool} (blind : ∀ line, test (trim line) = test line)
    (lines : List Line) : (lines.map trim).any test = lines.any test := by
  rw [List.any_map]
  exact congrArg lines.any (funext blind)

end Line

/-! ## Code lines and definitions -/

theorem Scan.classify_trim (scan : Scan) (line : Line) :
    scan.classify (trim line) = scan.classify line := by
  rw [classify, classify, Line.opensComment_trim, Line.closesComment_trim, trim_trim]

theorem Scan.codeLines_map_trim (scan : Scan) (index : Nat) (lines : List Line) :
    scan.codeLines index (lines.map trim) =
      (scan.codeLines index lines).map fun entry => (entry.1, trim entry.2) := by
  induction lines generalizing scan index with
  | nil => rfl
  | cons line rest ih =>
      rw [List.map_cons, codeLines_cons, codeLines_cons, classify_trim, ih, List.map_append]
      split <;> rfl

namespace Definition

theorem bodyFollows_map_trim (later : List Line) :
    bodyFollows (later.map trim) = bodyFollows later := by
  have notBlank : (fun line => !Line.isBlank line) ∘ trim = fun line => !Line.isBlank line :=
    funext fun line => congrArg (!·) (Line.isBlank_trim line)
  rw [bodyFollows, bodyFollows, List.find?_map, notBlank]
  cases later.find? fun line => !Line.isBlank line with
  | none => rfl
  | some line => exact congrArg opensBody (trim_trim line)

theorem definedName?_trim (line : Line) (later : List Line) :
    definedName? (trim line) (later.map trim) = definedName? line later := by
  rw [definedName?, definedName?, trim_trim, bodyFollows_map_trim]

end Definition

theorem definitions_map_trim (lines : List Line) :
    definitions (lines.map trim) = definitions lines := by
  rw [definitions, codeLines, Scan.codeLines_map_trim, List.filterMap_map, definitions, codeLines]
  refine List.filterMap_congr ?_
  rintro ⟨index, line⟩ -
  dsimp only [Function.comp_apply]
  rw [← List.map_drop, Definition.definedName?_trim]

theorem Documentation.above_map_trim (lines : List Line) (line window : Nat) :
    above (lines.map trim) line window = above lines line window := by
  rw [above, above, List.length_map, ← List.map_take, ← List.map_drop, List.map_map]
  exact List.map_congr_left fun line _ => trim_trim line

theorem Documentation.inspect_map_trim (lines : List Line) (definition : Definition)
    (window : Nat) :
    inspect (lines.map trim) definition window = inspect lines definition window := by
  rw [inspect, inspect, above_map_trim]

/-! ## Rules -/

def Source.trimmed (source : Source) : Source :=
  { source with lines := source.lines.map trim }

theorem HeaderRule.hasField_map_trim {field : String} (isField : field ∈ requiredFields)
    (lines : List Line) : hasField (lines.map trim) field = hasField lines field := by
  have solid : ∀ field ∈ requiredFields, isSolid (lower field.toList) = true := by decide +kernel
  exact Line.any_map_trim (occursIn_lower_trim (solid field isField)) lines

theorem HeaderRule.check_trimmed (rule : HeaderRule) (source : Source) :
    rule.check source.trimmed = rule.check source := by
  have opens : Line.opensComment ∘ trim = Line.opensComment := funext Line.opensComment_trim
  rw [check, check, Source.trimmed, ← List.map_take, List.findIdx?_map, opens]
  cases (source.lines.take rule.scanLines).findIdx? Line.opensComment with
  | none => rfl
  | some opener =>
      dsimp only
      rw [← List.map_drop, ← List.map_take,
        List.filter_congr fun field isField => congrArg (!·) (hasField_map_trim isField _)]
      rfl

theorem FunctionDocRule.check_trimmed (rule : FunctionDocRule) (source : Source) :
    rule.check source.trimmed = rule.check source := by
  simp only [check, Source.trimmed, definitions_map_trim, Documentation.inspect_map_trim]
  rfl

theorem HeaderGuardRule.hasDirective_map_trim (directive : String) (lines : List Line) :
    hasDirective directive (lines.map trim) = hasDirective directive lines :=
  Line.any_map_trim (fun line => by rw [trim_trim]) lines

theorem HeaderGuardRule.check_trimmed (source : Source) : check source.trimmed = check source := by
  have guarded : isGuarded (source.lines.map trim) = isGuarded source.lines := by
    simp only [isGuarded, List.length_map, ← List.map_take, ← List.map_drop, hasDirective_map_trim]
  rw [check, check, Source.trimmed, guarded]

namespace ErrorHandlingRule

theorem isChecked_map_trim (lines : List Line) : isChecked (lines.map trim) = isChecked lines :=
  Line.any_map_trim (fun line => by rw [trim_trim]) lines

theorem misdirects_trim (line : Line) : misdirects (trim line) = misdirects line := by
  have prints := Line.holds_trim "printf(" (by decide) line
  have toErrors := Line.holds_trim "fprintf(stderr" (by decide) line
  have error : Line.holds "error" (lower (trim line)) = Line.holds "error" (lower line) :=
    occursIn_lower_trim (by decide) line
  rw [misdirects, misdirects, prints, toErrors, error]

theorem misdirectedOutput_map_trim (path : Path) (start : Nat) (lines : List Line) :
    misdirectedOutput path start (lines.map trim) = misdirectedOutput path start lines := by
  induction lines generalizing start with
  | nil => rfl
  | cons line rest ih =>
      rw [List.map_cons, misdirectedOutput, misdirectedOutput, misdirects_trim, ih]

def startsSolid (name : String) : Bool :=
  name.toList.head?.all (!isBlank ·)

theorem isSolid_call {name : String} (solid : startsSolid name = true) :
    isSolid (name ++ "(").toList = true := by
  have paren : "(".toList = ['('] := rfl
  rw [String.toList_append, paren, isSolid_iff]
  refine ⟨?_, name.toList, '(', rfl, by decide⟩
  rw [startsSolid] at solid
  cases chars : name.toList with
  | nil => exact ⟨'(', [], rfl, by decide⟩
  | cons first rest => exact ⟨first, rest ++ ['('], rfl, by simpa [chars] using solid⟩

variable {rule : ErrorHandlingRule} (solid : ∀ name ∈ rule.functions, startsSolid name = true)
include solid

theorem assignedCalls_trim (line : Line) :
    rule.assignedCalls (trim line) = rule.assignedCalls line := by
  have calls : ∀ name ∈ rule.functions,
      Line.holds (name ++ "(") (trim line) = Line.holds (name ++ "(") line :=
    fun name member => Line.holds_trim _ (isSolid_call (solid name member)) line
  rw [assignedCalls, assignedCalls, Line.hasAssignment_trim, List.filter_congr calls]

theorem uncheckedCalls_map_trim (path : Path) (start : Nat) (lines : List Line) :
    rule.uncheckedCalls path start (lines.map trim) = rule.uncheckedCalls path start lines := by
  induction lines generalizing start with
  | nil => rfl
  | cons line rest ih =>
      rw [List.map_cons, uncheckedCalls, uncheckedCalls, ← List.map_take, isChecked_map_trim,
        assignedCalls_trim solid, ih]

theorem check_trimmed (source : Source) : rule.check source.trimmed = rule.check source := by
  rw [check, check, Source.trimmed, uncheckedCalls_map_trim solid, misdirectedOutput_map_trim]

end ErrorHandlingRule

/-! ## An analysis -/

namespace Settings

variable {settings : Settings} {checkerOf : Compiler → Checker}

def NamesSolid (settings : Settings) : Prop :=
  ∀ name ∈ (settings.optionsOf .errorHandling).strings "functions",
    ErrorHandlingRule.startsSolid name = true

theorem NamesSolid.functions (solid : settings.NamesSolid) :
    ∀ name ∈ (ErrorHandlingRule.ofSection (settings.optionsOf .errorHandling)).functions,
      ErrorHandlingRule.startsSolid name = true := by
  rw [ErrorHandlingRule.ofSection]
  dsimp only
  split
  · decide
  · exact solid

theorem check_trimmed (solid : settings.NamesSolid) {id : RuleId} (other : id ≠ .indentation)
    (source : Source) : (settings.rule checkerOf id).check source.trimmed =
      (settings.rule checkerOf id).check source := by
  cases id with
  | header => exact HeaderRule.check_trimmed _ source
  | functionDoc => exact FunctionDocRule.check_trimmed _ source
  | indentation => contradiction
  | headerGuard => exact HeaderGuardRule.check_trimmed source
  | errorHandling => exact ErrorHandlingRule.check_trimmed solid.functions source
  | compilation => rfl

theorem analyzeSource_trimmed (solid : settings.NamesSolid) (source : Source) :
    ((settings.analyzer checkerOf).analyzeSource source.trimmed).filter (·.kind ≠ .indentation) =
      ((settings.analyzer checkerOf).analyzeSource source).filter (·.kind ≠ .indentation) := by
  rw [analyzeSource_analyzer, analyzeSource_analyzer, List.filter_flatMap, List.filter_flatMap]
  refine List.flatMap_congr fun id _ => ?_
  by_cases other : id = .indentation
  · subst other
    have dropped (source : Source) :
        (settings.reported checkerOf source .indentation).filter (·.kind ≠ .indentation) = [] := by
      rw [List.filter_eq_nil_iff]
      intro finding member
      have kind := Rule.kind_mem_kinds _ (mem_reported_iff.mp member).2.2
      simpa using List.mem_singleton.mp kind
    rw [dropped, dropped]
  · have applies : id.appliesTo source.trimmed = id.appliesTo source := rfl
    rw [reported, reported, applies, check_trimmed solid other]

/-- Blanks around lines matter to indentation alone. If no name of a function in the settings begins
with a blank, then two files whose lines are the same once they are trimmed have the same findings
of all other rules, one by one and in an analysis, and the same definitions with the same
documentation. -/
theorem findings_eq_of_trim_eq (settings : Settings) (solid : settings.NamesSolid)
    (checkerOf : Compiler → Checker) (path : Path) (lines lines' : List Line)
    (same : lines.map trim = lines'.map trim) :
    (∀ id : RuleId, id ≠ .indentation → (settings.rule checkerOf id).check ⟨path, lines⟩ =
      (settings.rule checkerOf id).check ⟨path, lines'⟩) ∧
    ((settings.analyzer checkerOf).analyzeSource ⟨path, lines⟩).filter (·.kind ≠ .indentation) =
      ((settings.analyzer checkerOf).analyzeSource ⟨path, lines'⟩).filter (·.kind ≠ .indentation) ∧
    definitions lines = definitions lines' ∧
    ∀ definition window, Documentation.inspect lines definition window =
      Documentation.inspect lines' definition window := by
  have trimmed : (⟨path, lines⟩ : Source).trimmed = (⟨path, lines'⟩ : Source).trimmed := by
    rw [Source.trimmed, Source.trimmed, same]
  refine ⟨fun id other => ?_, ?_, ?_, fun definition window => ?_⟩
  · rw [← check_trimmed solid other, trimmed, check_trimmed solid other]
  · rw [← analyzeSource_trimmed solid, trimmed, analyzeSource_trimmed solid]
  · rw [← definitions_map_trim, same, definitions_map_trim]
  · rw [← Documentation.inspect_map_trim, same, Documentation.inspect_map_trim]

theorem findings_eq_of_trim_eq_sigma :
    let settings : Settings := { sections :=
      [("error-handling", { options := [("functions", .array [.string "my fn", .string ""])] })] }
    let lines : List Line := ["\u3000= my fn(1)\t", "printf(\"ERRORΣ\") \u2003"].map String.toList
    let lines' : List Line := ["  = my fn(1)", "    printf(\"ERRORΣ\")"].map String.toList
    settings.NamesSolid ∧ lines.map trim = lines'.map trim ∧ lines ≠ lines' ∧
    (settings.rule (fun _ _ => .ok .passed) .errorHandling).check ⟨"a.c", lines⟩ =
      (settings.rule (fun _ _ => .ok .passed) .errorHandling).check ⟨"a.c", lines'⟩ := by
  intro settings lines lines'
  have solid : settings.NamesSolid := by
    change ∀ name ∈ ["my fn", ""], ErrorHandlingRule.startsSolid name = true
    decide
  have same : lines.map trim = lines'.map trim := by decide
  exact ⟨solid, same, by decide,
    (findings_eq_of_trim_eq settings solid _ "a.c" lines lines' same).1 .errorHandling (by decide)⟩

end Settings

end HouseStyle
