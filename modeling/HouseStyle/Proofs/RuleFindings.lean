import HouseStyle.Analysis
import HouseStyle.Proofs.DefinitionGrammar

namespace HouseStyle

variable {source : Source} {finding : Finding}

/-! ## Rules about the file as a whole -/

theorem HeaderRule.mem_check {rule : HeaderRule} (member : finding ∈ rule.check source) :
    finding = HeaderRule.finding source "Missing file header comment" ∨
    ∃ field ∈ requiredFields,
      finding = HeaderRule.finding source ("Header missing '" ++ field ++ "' field") := by
  rw [check] at member
  split at member
  · exact .inl (List.mem_singleton.mp member)
  · obtain ⟨field, missing, rfl⟩ := List.mem_map.mp member
    exact .inr ⟨field, (List.mem_filter.mp missing).1, rfl⟩

theorem HeaderGuardRule.mem_check (member : finding ∈ check source) :
    finding = ⟨.headerGuard, ⟨source.path, 1⟩,
      "Header file missing proper include guards (#ifndef/#define/#endif)"⟩ := by
  rw [check] at member
  split at member
  · simp at member
  · exact List.mem_singleton.mp member

theorem CompilationRule.mem_check {checker : Checker} (member : finding ∈ check checker source) :
    (∃ diagnostics, checker source.path = .ok (.failed diagnostics) ∧
      ∃ line ∈ diagnosticLines diagnostics, finding =
        CompilationRule.finding source ("Compiler error/warning: " ++ String.ofList line)) ∨
    ∃ error, checker source.path = .error error ∧
      finding = CompilationRule.finding source error.message := by
  rw [check] at member
  split at member
  · simp at member
  · rename_i diagnostics outcome
    obtain ⟨line, isLine, rfl⟩ := List.mem_map.mp member
    exact .inl ⟨diagnostics, outcome, line, isLine, rfl⟩
  · rename_i error outcome
    exact .inr ⟨error, outcome, List.mem_singleton.mp member⟩

/-! ## Rules about lines -/

theorem FunctionDocRule.mem_check {rule : FunctionDocRule} (member : finding ∈ rule.check source) :
    ∃ definition ∈ definitions source.lines,
      finding = FunctionDocRule.finding source definition := by
  obtain ⟨definition, undocumented, rfl⟩ := List.mem_map.mp member
  exact ⟨definition, (List.mem_filter.mp undocumented).1, rfl⟩

theorem IndentationRule.mem_checkFrom {scan : Scan} {start : Nat} {lines : List Line}
    (member : finding ∈ checkFrom source scan start lines) :
    ∃ offset unit, offset < lines.length ∧
      finding = IndentationRule.finding source (start + offset) unit := by
  -- Induction on the lines: a finding of the rest is one line further from the start.
  induction lines generalizing scan start with
  | nil => simp [checkFrom] at member
  | cons text rest ih =>
      have later {scan : Scan} (member : finding ∈ checkFrom source scan (start + 1) rest) :
          ∃ offset unit, offset < (text :: rest).length ∧
            finding = IndentationRule.finding source (start + offset) unit := by
        obtain ⟨offset, unit, inside, rfl⟩ := ih member
        refine ⟨offset + 1, unit, by simpa using inside, ?_⟩
        rw [Nat.add_assoc, Nat.add_comm 1 offset]
      rw [checkFrom] at member
      split at member
      · exact later member
      · dsimp only at member
        split at member
        · split at member
          · rcases List.mem_cons.mp member with rfl | inRest
            · exact ⟨0, _, by simp, rfl⟩
            · exact later inRest
          · exact later member
        · exact later member

namespace ErrorHandlingRule

theorem mem_uncheckedCalls {rule : ErrorHandlingRule} {path : Path} {start : Nat}
    {lines : List Line} (member : finding ∈ rule.uncheckedCalls path start lines) :
    ∃ offset text function, lines[offset]? = some text ∧ function ∈ rule.assignedCalls text ∧
      finding = callFinding path (start + offset) function := by
  induction lines generalizing start with
  | nil => simp [uncheckedCalls] at member
  | cons text rest ih =>
      rw [uncheckedCalls, List.mem_append] at member
      rcases member with here | later
      · obtain ⟨function, called, rfl⟩ := List.mem_map.mp here
        split at called
        · simp at called
        · exact ⟨0, text, function, rfl, called, rfl⟩
      · obtain ⟨offset, line, function, located, called, rfl⟩ := ih later
        refine ⟨offset + 1, line, function, located, called, ?_⟩
        rw [Nat.add_assoc, Nat.add_comm 1 offset]

theorem mem_misdirectedOutput {path : Path} {start : Nat} {lines : List Line}
    (member : finding ∈ misdirectedOutput path start lines) :
    ∃ offset, offset < lines.length ∧ finding = outputFinding path (start + offset) := by
  induction lines generalizing start with
  | nil => simp [misdirectedOutput] at member
  | cons text rest ih =>
      have later (member : finding ∈ misdirectedOutput path (start + 1) rest) :
          ∃ offset, offset < (text :: rest).length ∧
            finding = outputFinding path (start + offset) := by
        obtain ⟨offset, inside, rfl⟩ := ih member
        refine ⟨offset + 1, by simpa using inside, ?_⟩
        rw [Nat.add_assoc, Nat.add_comm 1 offset]
      rw [misdirectedOutput] at member
      split at member
      · rcases List.mem_cons.mp member with rfl | inRest
        · exact ⟨0, by simp, rfl⟩
        · exact later inRest
      · exact later member

theorem kind_of_mem_uncheckedCalls {rule : ErrorHandlingRule} {path : Path} {start : Nat}
    {lines : List Line} (member : finding ∈ rule.uncheckedCalls path start lines) :
    finding.kind = .errorHandling := by
  obtain ⟨offset, text, function, -, -, rfl⟩ := mem_uncheckedCalls member
  rfl

theorem kind_of_mem_misdirectedOutput {path : Path} {start : Nat} {lines : List Line}
    (member : finding ∈ misdirectedOutput path start lines) : finding.kind = .errorOutput := by
  obtain ⟨offset, -, rfl⟩ := mem_misdirectedOutput member
  rfl

/-! The two passes report findings of different kinds, so they can be told apart in the result. -/

theorem filter_check_errorHandling (rule : ErrorHandlingRule) (source : Source) :
    (rule.check source).filter (·.kind = .errorHandling) =
      rule.uncheckedCalls source.path 1 source.lines := by
  rw [check, List.filter_append, List.filter_eq_self.mpr, List.filter_eq_nil_iff.mpr,
    List.append_nil]
  · intro finding member
    simp [kind_of_mem_misdirectedOutput member]
  · intro finding member
    simp [kind_of_mem_uncheckedCalls member]

theorem filter_check_errorOutput (rule : ErrorHandlingRule) (source : Source) :
    (rule.check source).filter (·.kind = .errorOutput) =
      misdirectedOutput source.path 1 source.lines := by
  rw [check, List.filter_append, List.filter_eq_nil_iff.mpr, List.filter_eq_self.mpr,
    List.nil_append]
  · intro finding member
    simp [kind_of_mem_misdirectedOutput member]
  · intro finding member
    simp [kind_of_mem_uncheckedCalls member]

end ErrorHandlingRule

/-! ## All rules -/

theorem Rule.kind_mem_kinds (rule : Rule) (member : finding ∈ rule.check source) :
    finding.kind ∈ rule.id.kinds := by
  cases rule with
  | header rule =>
      rcases HeaderRule.mem_check member with rfl | ⟨field, -, rfl⟩ <;>
        exact List.mem_singleton.mpr rfl
  | functionDoc rule =>
      obtain ⟨definition, -, rfl⟩ := FunctionDocRule.mem_check member
      exact List.mem_singleton.mpr rfl
  | indentation =>
      obtain ⟨offset, unit, -, rfl⟩ := IndentationRule.mem_checkFrom member
      exact List.mem_singleton.mpr rfl
  | headerGuard =>
      rw [HeaderGuardRule.mem_check member]
      exact List.mem_singleton.mpr rfl
  | errorHandling rule =>
      rcases List.mem_append.mp member with calls | output
      · rw [ErrorHandlingRule.kind_of_mem_uncheckedCalls calls]
        exact List.mem_cons_self
      · rw [ErrorHandlingRule.kind_of_mem_misdirectedOutput output]
        exact List.mem_cons_of_mem _ (List.mem_singleton.mpr rfl)
  | compilation checker =>
      rcases CompilationRule.mem_check member with ⟨_, _, line, _, rfl⟩ | ⟨error, _, rfl⟩ <;>
        exact List.mem_singleton.mpr rfl

theorem RuleId.eq_of_mem_kinds {kind : Kind} {id id' : RuleId} (first : kind ∈ id.kinds)
    (second : kind ∈ id'.kinds) : id = id' := by
  cases id <;> cases id' <;> simp_all [kinds]

theorem RuleId.mem_all (id : RuleId) : id ∈ RuleId.all := by
  cases id <;> decide

/-! ## Analyses -/

namespace Settings

variable {settings : Settings} {checkerOf : Compiler → Checker}

theorem id_rule (id : RuleId) : (settings.rule checkerOf id).id = id := by
  cases id <;> rfl

def reported (settings : Settings) (checkerOf : Compiler → Checker) (source : Source)
    (id : RuleId) : List Finding :=
  if settings.isRuleEnabled id && id.appliesTo source then (settings.rule checkerOf id).check source
  else []

theorem mem_reported_iff {id : RuleId} : finding ∈ settings.reported checkerOf source id ↔
    settings.isRuleEnabled id = true ∧ id.appliesTo source = true ∧
      finding ∈ (settings.rule checkerOf id).check source := by
  rw [reported]
  split
  · rename_i active
    rw [Bool.and_eq_true] at active
    simp [active]
  · rename_i inactive
    rw [Bool.and_eq_true] at inactive
    exact iff_of_false (by simp) fun ⟨enabled, applies, _⟩ => inactive ⟨enabled, applies⟩

theorem analyzeSource_rules (ids : List RuleId) :
    (⟨ids.map (settings.rule checkerOf), settings⟩ : Analyzer).analyzeSource source =
      ids.flatMap (settings.reported checkerOf source) := by
  rw [Analyzer.analyzeSource, Analyzer.activeRules]
  induction ids with
  | nil => rfl
  | cons id ids ih =>
      rw [List.map_cons, List.filter_cons, id_rule, List.flatMap_cons, ← ih, reported]
      split <;> rfl

def analyzer (settings : Settings) (checkerOf : Compiler → Checker) : Analyzer :=
  ⟨settings.rules checkerOf, settings⟩

theorem analyzeSource_analyzer : (settings.analyzer checkerOf).analyzeSource source =
    RuleId.all.flatMap (settings.reported checkerOf source) :=
  analyzeSource_rules RuleId.all

theorem mem_analyzeSource_iff : finding ∈ (settings.analyzer checkerOf).analyzeSource source ↔
    ∃ id : RuleId, settings.isRuleEnabled id = true ∧ id.appliesTo source = true ∧
      finding ∈ (settings.rule checkerOf id).check source := by
  simp only [analyzeSource_analyzer, List.mem_flatMap, mem_reported_iff, RuleId.mem_all, true_and]

end Settings

end HouseStyle
