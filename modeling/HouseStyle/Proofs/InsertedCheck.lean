import HouseStyle.Proofs.RuleFindings

namespace HouseStyle
open Text

def Finding.pushed (place : Nat) (finding : Finding) : Finding :=
  if place < finding.location.line then
    { finding with location := { finding.location with line := finding.location.line + 1 } }
  else finding

namespace ErrorHandlingRule

variable {rule : ErrorHandlingRule} {path : Path}

/-- The call that is reported is among the first `place` lines, and the line after these is one of
those that are searched for a check. -/
def Reaches (rule : ErrorHandlingRule) (place : Nat) (finding : Finding) : Prop :=
  place < finding.location.line + rule.lookahead ∧ finding.location.line ≤ place

instance (rule : ErrorHandlingRule) (place : Nat) (finding : Finding) :
    Decidable (rule.Reaches place finding) :=
  inferInstanceAs (Decidable (_ ∧ _))

/-! ## Below the new line -/

theorem lt_line_of_mem {place start : Nat} (below : place < start) {lines : List Line}
    {finding : Finding} (member : finding ∈ rule.uncheckedCalls path start lines) :
    place < finding.location.line := by
  obtain ⟨offset, text, function, -, -, rfl⟩ := mem_uncheckedCalls member
  exact Nat.lt_add_right offset below

theorem filter_below {place start : Nat} (below : place < start) (lines : List Line) :
    (rule.uncheckedCalls path start lines).filter (¬ rule.Reaches place ·) =
      rule.uncheckedCalls path start lines := by
  rw [List.filter_eq_self]
  intro finding member
  have notAbove := Nat.not_le.mpr (lt_line_of_mem below member)
  exact decide_eq_true fun reach => notAbove reach.2

theorem map_pushed_below {place start : Nat} (below : place < start) (lines : List Line) :
    (rule.uncheckedCalls path start lines).map (Finding.pushed place) =
      rule.uncheckedCalls path (start + 1) lines := by
  induction lines generalizing start with
  | nil => rfl
  | cons text rest ih =>
      have here : Finding.pushed place ∘ callFinding path start = callFinding path (start + 1) :=
        funext fun function => if_pos below
      rw [uncheckedCalls, uncheckedCalls, List.map_append, List.map_map, here, ih (by omega)]

/-! ## Above the new line -/

theorem isChecked_insert {inserted : Line} (checks : Line.isErrorCheck (trim inserted) = true)
    (between after : List Line) (lookahead : Nat) :
    isChecked ((between ++ inserted :: after).take lookahead) =
      (between.length < lookahead || isChecked ((between ++ after).take lookahead)) := by
  by_cases near : between.length < lookahead
  · have seen : inserted ∈ (between ++ inserted :: after).take lookahead := by
      obtain ⟨more, rfl⟩ : ∃ more, lookahead = between.length + (more + 1) :=
        ⟨lookahead - between.length - 1, by omega⟩
      rw [List.take_length_add_append, List.take_succ_cons]
      simp
    have checked : isChecked ((between ++ inserted :: after).take lookahead) = true :=
      List.any_eq_true.mpr ⟨inserted, seen, checks⟩
    simp [checked, near]
  · have far : lookahead ≤ between.length := Nat.le_of_not_lt near
    rw [List.take_append_of_le_length far, List.take_append_of_le_length far]
    simp [near]

theorem filter_above {place line : Nat} (above : line ≤ place) (functions : List String) :
    ((functions.map (callFinding path line)).filter (¬ rule.Reaches place ·)).map
      (Finding.pushed place) =
      if place < line + rule.lookahead then [] else functions.map (callFinding path line) := by
  split
  · rename_i near
    rw [List.filter_eq_nil_iff.mpr, List.map_nil]
    intro finding member
    obtain ⟨function, -, rfl⟩ := List.mem_map.mp member
    have reach : rule.Reaches place (callFinding path line function) := ⟨near, above⟩
    simp [reach]
  · rename_i far
    rw [List.filter_eq_self.mpr, List.map_map]
    · exact List.map_congr_left fun function _ => if_neg (Nat.not_lt.mpr above)
    · intro finding member
      obtain ⟨function, -, rfl⟩ := List.mem_map.mp member
      exact decide_eq_true fun reach => far reach.1

/-! ## A whole file -/

theorem uncheckedCalls_insert {inserted : Line}
    (checks : Line.isErrorCheck (trim inserted) = true) (plain : Line.hasAssignment inserted = false)
    (before after : List Line) {start place : Nat} (numbered : start + before.length = place + 1) :
    rule.uncheckedCalls path start (before ++ inserted :: after) =
      ((rule.uncheckedCalls path start (before ++ after)).filter (¬ rule.Reaches place ·)).map
        (Finding.pushed place) := by
  induction before generalizing start with
  | nil =>
      have below : place < start := by
        rw [List.length_nil] at numbered
        omega
      have noCalls : rule.assignedCalls inserted = [] := by simp [assignedCalls, plain]
      rw [List.nil_append, List.nil_append, uncheckedCalls, noCalls, ite_self, List.map_nil,
        List.nil_append, filter_below below, map_pushed_below below]
  | cons text between ih =>
      rw [List.length_cons] at numbered
      have near : place < start + rule.lookahead ↔ between.length < rule.lookahead := by omega
      rw [List.cons_append, List.cons_append, uncheckedCalls, uncheckedCalls, List.filter_append,
        List.map_append, ← ih (by omega), filter_above (by omega), isChecked_insert checks]
      congr 1
      simp only [near]
      by_cases close : between.length < rule.lookahead
      · simp [close]
      · simp [close]

/-- A check that is put into a file takes away the unchecked calls that have it in reach, on the lines
above it, and no others, and it adds none. Those on the lines below are pushed down by one line. -/
theorem inserted_check_clears (rule : ErrorHandlingRule) (path : Path) (lines : List Line)
    (place : Nat) (inside : place ≤ lines.length) (inserted : Line)
    (checks : Line.isErrorCheck (trim inserted) = true)
    (plain : Line.hasAssignment inserted = false) :
    (rule.check ⟨path, lines.take place ++ inserted :: lines.drop place⟩).filter
        (·.kind = .errorHandling) =
      (((rule.check ⟨path, lines⟩).filter (·.kind = .errorHandling)).filter
        (¬ rule.Reaches place ·)).map (Finding.pushed place) := by
  have numbered : 1 + (lines.take place).length = place + 1 := by
    rw [List.length_take_of_le inside, Nat.add_comm]
  rw [filter_check_errorHandling, filter_check_errorHandling,
    uncheckedCalls_insert checks plain _ _ numbered, List.take_append_drop]

theorem inserted_check_clears_middle :
    let rule : ErrorHandlingRule := ⟨["malloc"], 1⟩
    let lines := ["a = malloc(1);", "", "b = malloc(2);", "c = malloc(3);"].map String.toList
    let inserted := "  if (b == NULL)".toList
    Line.isErrorCheck (trim inserted) = true ∧ Line.hasAssignment inserted = false ∧
    (rule.check ⟨"a.c", lines.take 3 ++ inserted :: lines.drop 3⟩).filter
        (·.kind = .errorHandling) =
      (((rule.check ⟨"a.c", lines⟩).filter (·.kind = .errorHandling)).filter
        (¬ rule.Reaches 3 ·)).map (Finding.pushed 3) ∧
    rule.check ⟨"a.c", lines⟩ =
      [callFinding "a.c" 1 "malloc", callFinding "a.c" 3 "malloc", callFinding "a.c" 4 "malloc"] ∧
    rule.check ⟨"a.c", lines.take 3 ++ inserted :: lines.drop 3⟩ =
      [callFinding "a.c" 1 "malloc", callFinding "a.c" 5 "malloc"] := by
  intro rule lines inserted
  have checks : Line.isErrorCheck (trim inserted) = true := by decide +kernel
  have plain : Line.hasAssignment inserted = false := by decide +kernel
  exact ⟨checks, plain, inserted_check_clears rule "a.c" lines 3 (by decide) inserted checks plain,
    by decide +kernel, by decide +kernel⟩

end ErrorHandlingRule

end HouseStyle
