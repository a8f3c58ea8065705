import HouseStyle.Host.Inspection
import HouseStyle.Proofs.RuleFindings

namespace HouseStyle.Inspection

variable {processes : Processes} {settings : Settings} {source : Source}

theorem rule_congr {id : RuleId} (other : id ≠ .compilation)
    (checkerOf checkerOf' : Compiler → Checker) :
    settings.rule checkerOf id = settings.rule checkerOf' id := by
  cases id <;> first | rfl | contradiction

theorem check_ruleFor (host : Host) (id : RuleId) :
    (ruleFor processes settings host source.path id).1.check source =
      (settings.rule (host.compile processes) id).check source := by
  rw [ruleFor]
  split
  · rename_i isCompilation
    subst isCompilation
    rfl
  · rfl

theorem host_ruleFor {id : RuleId} (other : id ≠ .compilation) (host : Host) (path : Path) :
    (ruleFor processes settings host path id).2 = host := by
  rw [ruleFor, if_neg other]

theorem findings_checkRule (inspection : Inspection) (id : RuleId) :
    (checkRule processes settings source inspection id).report.findings =
      inspection.report.findings ++
        settings.reported (inspection.host.compile processes) source id := by
  rw [checkRule, Settings.reported]
  split
  · exact congrArg _ (check_ruleFor inspection.host id)
  · simp

theorem host_checkRule {id : RuleId} (other : id ≠ .compilation) (inspection : Inspection) :
    (checkRule processes settings source inspection id).host = inspection.host := by
  rw [checkRule]
  split
  · exact host_ruleFor other inspection.host source.path
  · rfl

theorem findings_foldl {ids : List RuleId} (once : ids.Nodup) (inspection : Inspection) :
    (ids.foldl (checkRule processes settings source) inspection).report.findings =
      inspection.report.findings ++
        ids.flatMap (settings.reported (inspection.host.compile processes) source) := by
  induction ids generalizing inspection with
  | nil => simp
  | cons id ids ih =>
      rw [List.nodup_cons] at once
      have later : ids.flatMap
          (settings.reported
            ((checkRule processes settings source inspection id).host.compile processes) source) =
          ids.flatMap (settings.reported (inspection.host.compile processes) source) := by
        by_cases isCompilation : id = .compilation
        · -- None of the rules that follow depends on the host.
          refine List.flatMap_congr fun next member => ?_
          have other : next ≠ .compilation := by
            rintro rfl
            exact once.1 (isCompilation ▸ member)
          rw [Settings.reported, Settings.reported, rule_congr other]
        · rw [host_checkRule isCompilation]
      rw [List.foldl_cons, ih once.2, findings_checkRule, later, List.flatMap_cons,
        List.append_assoc]

theorem findings_ofSource (settings : Settings) {ids : List RuleId} (once : ids.Nodup) (host : Host)
    (source : Source) : (ofSource processes settings ids host source).report.findings =
      (⟨ids.map (settings.rule (host.compile processes)), settings⟩ : Analyzer).analyzeSource
        source := by
  rw [ofSource, findings_foldl once, Settings.analyzeSource_rules]
  rfl

end HouseStyle.Inspection
