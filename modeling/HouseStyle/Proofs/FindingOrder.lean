import HouseStyle.Proofs.RuleSelection

namespace HouseStyle

namespace Kind

def reportOrder : List Kind :=
  [header, functionDoc, indentation, headerGuard, errorHandling, errorOutput, compilation]

def rank (kind : Kind) : Nat :=
  reportOrder.idxOf kind

def oncePerLine : List Kind :=
  [functionDoc, indentation, errorOutput]

end Kind

/-- The first finding comes before the second, because its kind does or its line does. Two findings
of the same kind share a line only if the kind permits it. -/
inductive Precedes (first second : Finding) : Prop where
  | kind (lower : first.kind.rank < second.kind.rank)
  | line (same : first.kind = second.kind) (lower : first.location.line < second.location.line)
  | sharedLine (same : first.kind = second.kind) (shared : first.kind ∉ Kind.oncePerLine)
      (line : first.location.line = second.location.line)

structure InOrder (findings : List Finding) : Prop where
  kinds : ∀ finding ∈ findings, finding.kind ∈ Kind.reportOrder
  sorted : findings.Pairwise fun first second =>
    first.kind.rank < second.kind.rank ∨
      first.kind = second.kind ∧ first.location.line ≤ second.location.line
  onePerLine : ∀ kind ∈ Kind.oncePerLine,
    (findings.filter (·.kind = kind)).Pairwise fun first second =>
      first.location.line < second.location.line
  headers : findings.countP (·.kind = .header) ≤ 3
  guards : findings.countP (·.kind = .headerGuard) ≤ 1

theorem Precedes.sorted {first second : Finding} (precedes : Precedes first second) :
    first.kind.rank < second.kind.rank ∨
      first.kind = second.kind ∧ first.location.line ≤ second.location.line := by
  cases precedes with
  | kind lower => exact .inl lower
  | line same lower => exact .inr ⟨same, Nat.le_of_lt lower⟩
  | sharedLine same _ line => exact .inr ⟨same, Nat.le_of_eq line⟩

theorem Precedes.line_lt {first second : Finding} (precedes : Precedes first second)
    (same : first.kind = second.kind) (once : first.kind ∈ Kind.oncePerLine) :
    first.location.line < second.location.line := by
  cases precedes with
  | kind lower => exact absurd (congrArg Kind.rank same) (Nat.ne_of_lt lower)
  | line _ lower => exact lower
  | sharedLine _ shared _ => exact absurd once shared

/-! ## The findings of one rule -/

theorem Precedes.further (kind : Kind) (path path' : Path) (message message' : String)
    (start offset : Nat) : Precedes ⟨kind, ⟨path, start⟩, message⟩
      ⟨kind, ⟨path', start + 1 + offset⟩, message'⟩ := by
  have lower : start < start + 1 + offset := by omega
  exact .line rfl lower

theorem pairwise_precedes_of_sameLine {findings : List Finding} (kind : Kind) (line : Nat)
    (shared : kind ∉ Kind.oncePerLine)
    (all : ∀ finding ∈ findings, finding.kind = kind ∧ finding.location.line = line) :
    findings.Pairwise Precedes := by
  refine List.pairwise_of_forall_mem_list fun first isFirst second isSecond => ?_
  obtain ⟨kindFirst, lineFirst⟩ := all first isFirst
  obtain ⟨kindSecond, lineSecond⟩ := all second isSecond
  exact .sharedLine (kindFirst.trans kindSecond.symm) (kindFirst ▸ shared)
    (lineFirst.trans lineSecond.symm)

variable {source : Source}

theorem HeaderRule.check_pairwise_precedes (rule : HeaderRule) :
    (rule.check source).Pairwise Precedes := by
  refine pairwise_precedes_of_sameLine .header 1 (by decide) fun finding member => ?_
  rcases mem_check member with rfl | ⟨field, -, rfl⟩ <;> exact ⟨rfl, rfl⟩

theorem HeaderRule.length_check (rule : HeaderRule) : (rule.check source).length ≤ 3 := by
  rw [check]
  split
  · exact Nat.le_add_left 1 2
  · rw [List.length_map]
    exact List.length_filter_le _ requiredFields

theorem HeaderGuardRule.length_check : (check source).length ≤ 1 := by
  rw [check]
  split
  · exact Nat.zero_le 1
  · exact Nat.le_refl 1

theorem FunctionDocRule.check_pairwise_precedes (rule : FunctionDocRule) :
    (rule.check source).Pairwise Precedes := by
  rw [check, List.pairwise_map]
  exact (DefinitionGrammar.definitions_increasing source.lines).filter _ |>.imp fun lower =>
    .line rfl lower

theorem IndentationRule.checkFrom_pairwise_precedes (scan : Scan) (start : Nat)
    (lines : List Line) : (checkFrom source scan start lines).Pairwise Precedes := by
  induction lines generalizing scan start with
  | nil => exact .nil
  | cons text rest ih =>
      rw [checkFrom]
      split
      · exact ih scan (start + 1)
      · dsimp only
        split
        · rename_i unit next _
          split
          · refine List.pairwise_cons.mpr ⟨fun later member => ?_, ih next (start + 1)⟩
            obtain ⟨offset, _, -, rfl⟩ := mem_checkFrom member
            exact .further ..
          · exact ih next (start + 1)
        · rename_i next _
          exact ih next (start + 1)

namespace ErrorHandlingRule

theorem uncheckedCalls_pairwise_precedes (rule : ErrorHandlingRule) (path : Path) (start : Nat)
    (lines : List Line) : (rule.uncheckedCalls path start lines).Pairwise Precedes := by
  induction lines generalizing start with
  | nil => exact .nil
  | cons text rest ih =>
      rw [uncheckedCalls]
      refine List.pairwise_append.mpr ⟨?_, ih (start + 1), fun first isFirst later member => ?_⟩
      · -- One line can hold several calls.
        refine pairwise_precedes_of_sameLine .errorHandling start (by decide) fun call member => ?_
        obtain ⟨function, -, rfl⟩ := List.mem_map.mp member
        exact ⟨rfl, rfl⟩
      · obtain ⟨function, -, rfl⟩ := List.mem_map.mp isFirst
        obtain ⟨offset, _, called, -, -, rfl⟩ := mem_uncheckedCalls member
        exact .further ..

theorem misdirectedOutput_pairwise_precedes (path : Path) (start : Nat) (lines : List Line) :
    (misdirectedOutput path start lines).Pairwise Precedes := by
  induction lines generalizing start with
  | nil => exact .nil
  | cons text rest ih =>
      rw [misdirectedOutput]
      split
      · refine List.pairwise_cons.mpr ⟨fun later member => ?_, ih (start + 1)⟩
        obtain ⟨offset, -, rfl⟩ := mem_misdirectedOutput member
        exact .further ..
      · exact ih (start + 1)

theorem check_pairwise_precedes (rule : ErrorHandlingRule) :
    (rule.check source).Pairwise Precedes := by
  rw [check]
  refine List.pairwise_append.mpr ⟨uncheckedCalls_pairwise_precedes rule _ _ _,
    misdirectedOutput_pairwise_precedes _ _ _, fun call isCall output isOutput => ?_⟩
  obtain ⟨_, _, function, -, -, rfl⟩ := mem_uncheckedCalls isCall
  obtain ⟨_, -, rfl⟩ := mem_misdirectedOutput isOutput
  have lower : Kind.rank .errorHandling < Kind.rank .errorOutput := by decide
  exact .kind lower

end ErrorHandlingRule

theorem Rule.check_pairwise_precedes (rule : Rule) : (rule.check source).Pairwise Precedes := by
  cases rule with
  | header rule => exact rule.check_pairwise_precedes
  | functionDoc rule => exact rule.check_pairwise_precedes
  | indentation => exact IndentationRule.checkFrom_pairwise_precedes {} 1 source.lines
  | headerGuard =>
      refine pairwise_precedes_of_sameLine .headerGuard 1 (by decide) fun finding member => ?_
      rw [HeaderGuardRule.mem_check member]
      exact ⟨rfl, rfl⟩
  | errorHandling rule => exact rule.check_pairwise_precedes
  | compilation checker =>
      refine pairwise_precedes_of_sameLine .compilation 0 (by decide) fun finding member => ?_
      rcases CompilationRule.mem_check member with ⟨_, -, line, -, rfl⟩ | ⟨error, -, rfl⟩ <;>
        exact ⟨rfl, rfl⟩

/-! ## Analyses -/

namespace Settings

variable {settings : Settings} {checkerOf : Compiler → Checker}

theorem reported_pairwise_precedes (id : RuleId) :
    (settings.reported checkerOf source id).Pairwise Precedes := by
  rw [reported]
  split
  · exact Rule.check_pairwise_precedes _
  · exact .nil

theorem reported_precedes : RuleId.all.Pairwise fun earlier later =>
    ∀ first ∈ settings.reported checkerOf source earlier,
      ∀ second ∈ settings.reported checkerOf source later, Precedes first second := by
  have ranked : RuleId.all.Pairwise fun earlier later =>
      ∀ kind ∈ earlier.kinds, ∀ kind' ∈ later.kinds, kind.rank < kind'.rank := by
    decide
  refine ranked.imp fun lower first isFirst second isSecond => .kind ?_
  exact lower _ (kind_of_mem_reported isFirst) _ (kind_of_mem_reported isSecond)

theorem analyzeSource_pairwise_precedes :
    ((settings.analyzer checkerOf).analyzeSource source).Pairwise Precedes := by
  rw [analyzeSource_analyzer, List.pairwise_flatMap]
  exact ⟨fun id _ => reported_pairwise_precedes id, reported_precedes⟩

theorem length_reported_le (id : RuleId) : (settings.reported checkerOf source id).length ≤
    ((settings.rule checkerOf id).check source).length := by
  rw [reported]
  split
  · exact Nat.le_refl _
  · exact Nat.zero_le _

theorem countP_analyzeSource (id : RuleId) {kind : Kind} (only : id.kinds = [kind]) :
    ((settings.analyzer checkerOf).analyzeSource source).countP (·.kind = kind) ≤
      ((settings.rule checkerOf id).check source).length := by
  have part : ((settings.analyzer checkerOf).analyzeSource source).filter (·.kind ∈ id.kinds) = _ :=
    filter_analyzeSource id
  simp only [only, List.mem_singleton] at part
  rw [List.countP_eq_length_filter, part]
  exact length_reported_le id

theorem inOrder_analyzeSource : InOrder ((settings.analyzer checkerOf).analyzeSource source) := by
  have precedes : ((settings.analyzer checkerOf).analyzeSource source).Pairwise Precedes :=
    analyzeSource_pairwise_precedes
  refine ⟨fun finding member => ?_, precedes.imp Precedes.sorted, fun kind once => ?_, ?_, ?_⟩
  · obtain ⟨id, -, -, reported⟩ := mem_analyzeSource_iff.mp member
    have ranked : ∀ id ∈ RuleId.all, ∀ kind ∈ id.kinds, kind ∈ Kind.reportOrder := by decide
    have kind := Rule.kind_mem_kinds _ reported
    rw [id_rule] at kind
    exact ranked id (RuleId.mem_all id) _ kind
  · refine (precedes.filter _).imp_of_mem fun {first second} isFirst isSecond before => ?_
    have kindFirst : first.kind = kind := by simpa using (List.mem_filter.mp isFirst).2
    have kindSecond : second.kind = kind := by simpa using (List.mem_filter.mp isSecond).2
    exact before.line_lt (kindFirst.trans kindSecond.symm) (kindFirst ▸ once)
  · exact (countP_analyzeSource .header rfl).trans (HeaderRule.length_check _)
  · exact (countP_analyzeSource .headerGuard rfl).trans HeaderGuardRule.length_check

/-- The findings about a file are sorted by their kinds and, within a kind, by their lines, whatever
the settings, the path, the text and the outcome of the compiler. The same holds of an inspection of
the file on a host. -/
theorem findings_inOrder (settings : Settings) (checkerOf : Compiler → Checker) (path : Path)
    (text : List Char) :
    InOrder ((settings.analyzer checkerOf).analyzeSource (.ofText path text)) ∧
    ∀ (processes : Processes) (host : Host), InOrder
      (Inspection.ofSource processes settings RuleId.all host (.ofText path text)).report.findings := by
  refine ⟨inOrder_analyzeSource, fun processes host => ?_⟩
  rw [Inspection.findings_ofSource settings (by decide)]
  exact inOrder_analyzeSource

example :
    let text := "int f(void) \x7b\n  printf(\"error\");\n   p = malloc(1); q = fopen(p, p);\n\x7d"
    let checkerOf : Compiler → Checker := fun _ _ => .ok (.failed "x.c:2: a\n\nx.c:3: b")
    let findings := (Settings.analyzer {} checkerOf).analyzeSource (.ofText "x.c" text.toList)
    findings.map (fun finding => (finding.kind, finding.location.line)) =
      [(.header, 1), (.functionDoc, 1), (.indentation, 3), (.errorHandling, 3), (.errorHandling, 3),
        (.errorOutput, 2), (.compilation, 0), (.compilation, 0)] := by
  decide +kernel

end Settings

end HouseStyle
