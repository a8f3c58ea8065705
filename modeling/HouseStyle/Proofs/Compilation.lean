import HouseStyle.Proofs.Lines
import HouseStyle.Proofs.RuleFindings
import HouseStyle.Proofs.Trim

namespace HouseStyle.CompilationRule
open Text

variable {checker : Checker} {source : Source}

theorem diagnosticLines_eq_nil_iff {diagnostics : String} :
    diagnosticLines diagnostics = [] ↔ ∀ c ∈ diagnostics.toList, isBlank c = true := by
  constructor
  · intro none c member
    by_contra notBlank
    rw [Bool.not_eq_true] at notBlank
    -- Such a character is in the trimmed text, hence in one of its lines.
    have inTrimmed := (mem_trim_iff notBlank diagnostics.toList).mpr member
    obtain ⟨line, isLine, inLine⟩ := exists_mem_lines inTrimmed (by rintro rfl; contradiction)
      (by rintro rfl; contradiction)
    rw [diagnosticLines, List.filter_eq_nil_iff] at none
    refine none line isLine ?_
    simp only [Line.isBlank, trim_eq_nil_iff, Bool.not_eq_true', decide_eq_false_iff_not]
    intro allBlank
    rw [allBlank c inLine] at notBlank
    contradiction
  · intro blank
    rw [diagnosticLines, trim_eq_nil_iff.mpr blank, lines, List.filter_nil]

def RejectsSilently (checker : Checker) (path : Path) : Prop :=
  ∃ diagnostics, checker path = .ok (.failed diagnostics) ∧
    ∀ c ∈ diagnostics.toList, isBlank c = true

theorem check_eq_nil_iff : check checker source = [] ↔
    checker source.path = .ok .passed ∨ RejectsSilently checker source.path := by
  rw [check, RejectsSilently]
  cases verdict : checker source.path with
  | error error => simp
  | ok outcome =>
      cases outcome with
      | passed => simp
      | failed diagnostics => simp [diagnosticLines_eq_nil_iff]

variable {settings : Settings} {checkerOf : Compiler → Checker}

theorem unreported_iff_check (enabled : settings.isRuleEnabled .compilation = true)
    (isUnit : source.isUnit = true) :
    (∀ finding ∈ (settings.analyzer checkerOf).analyzeSource source, finding.kind ≠ .compilation) ↔
      check (checkerOf (.ofSection (settings.optionsOf .compilation))) source = [] := by
  constructor
  · intro unreported
    refine List.eq_nil_iff_forall_not_mem.mpr fun finding member => ?_
    have kind := Rule.kind_mem_kinds (settings.rule checkerOf .compilation) member
    refine unreported finding ?_ (List.mem_singleton.mp kind)
    exact Settings.mem_analyzeSource_iff.mpr ⟨.compilation, enabled, isUnit, member⟩
  · intro none finding member isCompilation
    obtain ⟨id, -, -, reported⟩ := Settings.mem_analyzeSource_iff.mp member
    -- No other rule makes findings of this kind.
    have kind := Rule.kind_mem_kinds _ reported
    rw [isCompilation, Settings.id_rule] at kind
    obtain rfl : id = .compilation := RuleId.eq_of_mem_kinds kind List.mem_cons_self
    rw [Settings.rule, RuleId.ruleOf, Rule.check, none] at reported
    simp at reported

/-- When a unit goes unreported: exactly if the compiler accepts it, or rejects it without a reason.
In all other cases there is a finding, and an analysis in which the rule is on shows it. -/
theorem unreported_iff (settings : Settings) (checkerOf : Compiler → Checker) (source : Source) :
    let checker := checkerOf (.ofSection (settings.optionsOf .compilation))
    let excused := checker source.path = .ok .passed ∨ RejectsSilently checker source.path
    (check checker source = [] ↔ excused) ∧
    (∀ finding ∈ check checker source, finding.kind = .compilation) ∧
    (settings.isRuleEnabled .compilation = true → source.isUnit = true →
      ((∀ finding ∈ (settings.analyzer checkerOf).analyzeSource source,
        finding.kind ≠ .compilation) ↔ excused)) := by
  refine ⟨check_eq_nil_iff, fun finding member => ?_, fun enabled isUnit => ?_⟩
  · exact List.mem_singleton.mp (Rule.kind_mem_kinds (settings.rule checkerOf .compilation) member)
  · rw [unreported_iff_check enabled isUnit, check_eq_nil_iff]

/-- A compiler that fails and prints nothing: the unit is not accepted, and yet there is nothing to
report and the exit status is that of success. -/
theorem rejected_unit_unreported :
    let checkerOf : Compiler → Checker := fun _ _ => .ok (.failed "")
    let source := Source.ofText "a.c" "/* File: Author: Purpose: */".toList
    let findings := (Settings.analyzer {} checkerOf).analyzeSource source
    checkerOf {} source.path ≠ .ok .passed ∧ Settings.isRuleEnabled {} .compilation = true ∧
      source.isUnit = true ∧ findings = [] ∧ (⟨findings, [source.path]⟩ : Report).exitCode = 0 := by
  decide +kernel

end HouseStyle.CompilationRule
