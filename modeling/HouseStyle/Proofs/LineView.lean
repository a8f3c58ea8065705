import HouseStyle.Proofs.RuleFindings

namespace HouseStyle.ErrorHandlingRule

variable {rule : ErrorHandlingRule} {path : Path}

/-- The line with this index and the lines after it that are searched for a check. These are fewer at
the end of the file. -/
def view (rule : ErrorHandlingRule) (lines : List Line) (index : Nat) : List Line :=
  (lines.drop index).take (rule.lookahead + 1)

def uncheckedIn (rule : ErrorHandlingRule) : List Line → List String
  | [] => []
  | text :: below => if isChecked below then [] else rule.assignedCalls text

/-! ## Unchecked calls -/

theorem uncheckedCalls_cons (start : Nat) (text : Line) (rest : List Line) :
    rule.uncheckedCalls path start (text :: rest) =
      (rule.uncheckedIn (rule.view (text :: rest) 0)).map (callFinding path start) ++
        rule.uncheckedCalls path (start + 1) rest := rfl

theorem filter_callFinding (start number : Nat) (functions : List String) :
    (functions.map (callFinding path start)).filter (·.location.line = number) =
      if start = number then functions.map (callFinding path start) else [] := by
  split
  · rename_i here
    refine List.filter_eq_self.mpr fun finding member => ?_
    obtain ⟨function, -, rfl⟩ := List.mem_map.mp member
    exact decide_eq_true here
  · rename_i elsewhere
    refine List.filter_eq_nil_iff.mpr fun finding member => ?_
    obtain ⟨function, -, rfl⟩ := List.mem_map.mp member
    simp [callFinding, elsewhere]

theorem filter_uncheckedCalls_before {start number : Nat} (before : number < start)
    (lines : List Line) :
    (rule.uncheckedCalls path start lines).filter (·.location.line = number) = [] := by
  refine List.filter_eq_nil_iff.mpr fun finding member => ?_
  obtain ⟨offset, text, function, -, -, rfl⟩ := mem_uncheckedCalls member
  have notHere : start + offset ≠ number := by omega
  simp [callFinding, notHere]

theorem filter_uncheckedCalls (start index : Nat) (lines : List Line) :
    (rule.uncheckedCalls path start lines).filter (·.location.line = start + index) =
      (rule.uncheckedIn (rule.view lines index)).map (callFinding path (start + index)) := by
  -- Induction on the lines: the first line is the one in question, or the index counts from the next.
  induction lines generalizing start index with
  | nil => simp [uncheckedCalls, view, uncheckedIn]
  | cons text rest ih =>
      rw [uncheckedCalls_cons, List.filter_append, filter_callFinding]
      cases index with
      | zero =>
          rw [Nat.add_zero, if_pos rfl, filter_uncheckedCalls_before (Nat.lt_succ_self start),
            List.append_nil]
      | succ index =>
          have shifted : start + (index + 1) = start + 1 + index := by omega
          rw [if_neg (by omega), List.nil_append, shifted, ih]
          rfl

/-! ## Misdirected output -/

theorem exists_mem_misdirectedOutput_iff (path : Path) (start index : Nat) (lines : List Line) :
    (∃ finding ∈ misdirectedOutput path start lines, finding.location.line = start + index) ↔
      ∃ text, lines[index]? = some text ∧ misdirects text = true := by
  induction lines generalizing start index with
  | nil => simp [misdirectedOutput]
  | cons text rest ih =>
      rw [misdirectedOutput]
      cases index with
      | zero =>
          have later : ¬ ∃ finding ∈ misdirectedOutput path (start + 1) rest,
              finding.location.line = start := by
            rintro ⟨finding, member, here⟩
            obtain ⟨offset, -, rfl⟩ := mem_misdirectedOutput member
            simp only [outputFinding] at here
            omega
          split <;> simp_all [outputFinding]
      | succ index =>
          have shifted : start + (index + 1) = start + 1 + index := by omega
          rw [shifted, List.getElem?_cons_succ, ← ih (start + 1)]
          split
          · have notHere : ¬ start = start + 1 + index := by omega
            simp [outputFinding, notHere]
          · rfl

/-! ## A whole file -/

def callMessages (rule : ErrorHandlingRule) (source : Source) (number : Nat) : List String :=
  ((rule.check source).filter fun finding =>
    finding.kind = .errorHandling ∧ finding.location.line = number).map (·.message)

def ReportsOutput (rule : ErrorHandlingRule) (source : Source) (number : Nat) : Prop :=
  ∃ finding ∈ rule.check source, finding.kind = .errorOutput ∧ finding.location.line = number

theorem callMessages_eq (lines : List Line) (index : Nat) :
    rule.callMessages ⟨path, lines⟩ (index + 1) =
      (rule.uncheckedIn (rule.view lines index)).map fun function =>
        "Call to " ++ function ++ "() not checked for errors" := by
  have inTurn : (rule.check ⟨path, lines⟩).filter (fun finding =>
      finding.kind = .errorHandling ∧ finding.location.line = index + 1) =
      ((rule.check ⟨path, lines⟩).filter (·.kind = .errorHandling)).filter
        (·.location.line = 1 + index) := by
    simp [List.filter_filter, Nat.add_comm, Bool.and_comm]
  rw [callMessages, inTurn, filter_check_errorHandling, filter_uncheckedCalls, List.map_map]
  rfl

theorem reportsOutput_iff (lines : List Line) (index : Nat) :
    rule.ReportsOutput ⟨path, lines⟩ (index + 1) ↔
      ∃ text, (rule.view lines index).head? = some text ∧ misdirects text = true := by
  have first : (rule.view lines index).head? = lines[index]? := by
    rw [view, List.head?_take, if_neg (Nat.succ_ne_zero _), List.head?_drop]
  have ofKind (finding : Finding) :
      finding ∈ rule.check ⟨path, lines⟩ ∧ finding.kind = .errorOutput ↔
        finding ∈ misdirectedOutput path 1 lines := by
    rw [← filter_check_errorOutput rule ⟨path, lines⟩, List.mem_filter, decide_eq_true_eq]
  rw [first, ← exists_mem_misdirectedOutput_iff path 1 index lines, ReportsOutput,
    Nat.add_comm index 1]
  simp only [← and_assoc, ofKind]

/-! ## Two files -/

/-- If two lines, in the same file or in two, see the same lines, then the same calls are reported as
unchecked there, in the same order, and output is misdirected in both places or in neither. -/
theorem findings_eq_of_view_eq (rule : ErrorHandlingRule) (path path' : Path)
    (lines lines' : List Line) (index index' : Nat)
    (same : rule.view lines index = rule.view lines' index') :
    rule.callMessages ⟨path, lines⟩ (index + 1) = rule.callMessages ⟨path', lines'⟩ (index' + 1) ∧
    (rule.ReportsOutput ⟨path, lines⟩ (index + 1) ↔
      rule.ReportsOutput ⟨path', lines'⟩ (index' + 1)) := by
  constructor
  · rw [callMessages_eq, callMessages_eq, same]
  · rw [reportsOutput_iff, reportsOutput_iff, same]

theorem findings_eq_of_view_eq_moved :
    let rule : ErrorHandlingRule := ⟨["fopen", "malloc"], 1⟩
    let call := "p = malloc(1), f = fopen(n); printf(\"Error\");"
    let lines := ["if (p == NULL)", call, "use(p);", "q = malloc(2);"].map String.toList
    let lines' := [call, "use(p);", "if (p == NULL)"].map String.toList
    rule.view lines 1 = rule.view lines' 0 ∧
    rule.callMessages ⟨"a.c", lines⟩ 2 = rule.callMessages ⟨"b.c", lines'⟩ 1 ∧
    (rule.ReportsOutput ⟨"a.c", lines⟩ 2 ↔ rule.ReportsOutput ⟨"b.c", lines'⟩ 1) ∧
    rule.check ⟨"a.c", lines⟩ = [callFinding "a.c" 2 "fopen", callFinding "a.c" 2 "malloc",
      callFinding "a.c" 4 "malloc", outputFinding "a.c" 2] ∧
    rule.check ⟨"b.c", lines'⟩ = [callFinding "b.c" 1 "fopen", callFinding "b.c" 1 "malloc",
      outputFinding "b.c" 1] := by
  intro rule call lines lines'
  have same : rule.view lines 1 = rule.view lines' 0 := by decide +kernel
  obtain ⟨calls, output⟩ := findings_eq_of_view_eq rule "a.c" "b.c" lines lines' 1 0 same
  exact ⟨same, calls, output, by decide +kernel, by decide +kernel⟩

end HouseStyle.ErrorHandlingRule
