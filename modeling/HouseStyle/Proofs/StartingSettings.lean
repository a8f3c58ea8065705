import HouseStyle.CommandLine.Texts
import HouseStyle.Proofs.SettingsEdits
import HouseStyle.Settings.Document
import Mathlib.Tactic.MkIffOfInductiveProp

namespace HouseStyle.Settings
open CommandLine

/-- Every rule is on, with the limits, the lists and the compiler that it has by default, and a search
takes the files that it takes by default. -/
@[mk_iff]
structure SpellsDefaults (settings : Settings) : Prop where
  extensions : settings.search.extensions = SearchSettings.extensions {}
  respectIgnoreFiles : settings.search.respectIgnoreFiles = SearchSettings.respectIgnoreFiles {}
  enabled : ∀ id ∈ RuleId.all, settings.isRuleEnabled id = true
  header : HeaderRule.ofSection (settings.optionsOf .header) = {}
  functionDoc : FunctionDocRule.ofSection (settings.optionsOf .functionDoc) = {}
  errorHandling : ErrorHandlingRule.ofSection (settings.optionsOf .errorHandling) = {}
  compiler : Compiler.ofSection (settings.optionsOf .compilation) = {}

instance (settings : Settings) : Decidable settings.SpellsDefaults :=
  decidable_of_iff' _ settings.spellsDefaults_iff

theorem spellsDefaults_empty : SpellsDefaults {} := by decide +kernel

theorem SpellsDefaults.sameRules {first second : Settings} (spells : first.SpellsDefaults)
    (spells' : second.SpellsDefaults) : SameRules first second where
  enabled := fun id => by rw [spells.enabled id id.mem_all, spells'.enabled id id.mem_all]
  rule := fun checkerOf id => by
    cases id with
    | header => simp only [rule, RuleId.ruleOf, spells.header, spells'.header]
    | functionDoc => simp only [rule, RuleId.ruleOf, spells.functionDoc, spells'.functionDoc]
    | indentation => rfl
    | headerGuard => rfl
    | errorHandling => simp only [rule, RuleId.ruleOf, spells.errorHandling, spells'.errorHandling]
    | compilation => simp only [rule, RuleId.ruleOf, spells.compiler, spells'.compiler]
  compiler := by rw [spells.compiler, spells'.compiler]

theorem settingsTemplate_toList : settingsTemplate.toList =
    settingsTemplateLines.flatMap fun line => line.toList ++ ['\n'] :=
  String.toList_ofList

theorem any_parse_template :
    (parse settingsTemplate.toList).toOption.any (decide <| SpellsDefaults ·) = true := by
  rw [settingsTemplate_toList, settingsTemplateLines]
  simp only [List.flatMap_cons, List.flatMap_nil]
  -- The characters are spelled out before the document is read: strings are slow to evaluate.
  repeat rw [String.toList_ofList]
  decide +kernel

theorem exists_parse_template : ∃ settings,
    parse settingsTemplate.toList = .ok settings ∧ settings.SpellsDefaults := by
  have spelled := any_parse_template
  revert spelled
  generalize parse settingsTemplate.toList = read
  intro spelled
  cases read with
  | error error => simp [Except.toOption] at spelled
  | ok settings => exact ⟨settings, rfl, by simpa [Except.toOption] using spelled⟩

/-- The settings that are written for a new project are neutral: they can be read, and whatever the
compiler finds out, nothing is reported about any file that would not be reported without settings,
and the other way round. The same compiler is run with the same flags and limit. A search takes files
with the same extensions, and treats ignore files alike. -/
theorem template_neutral : ∃ settings, parse settingsTemplate.toList = .ok settings ∧
    settings.search.extensions = SearchSettings.extensions {} ∧
    settings.search.respectIgnoreFiles = SearchSettings.respectIgnoreFiles {} ∧
    Compiler.ofSection (settings.optionsOf .compilation) =
      Compiler.ofSection (optionsOf {} .compilation) ∧
    (∀ checkerOf source, (settings.analyzer checkerOf).analyzeSource source =
      (analyzer {} checkerOf).analyzeSource source) ∧
    ∀ processes ids host source, Inspection.ofSource processes settings ids host source =
      Inspection.ofSource processes {} ids host source := by
  obtain ⟨settings, read, spells⟩ := exists_parse_template
  have same : SameRules settings {} := spells.sameRules spellsDefaults_empty
  exact ⟨settings, read, spells.extensions, spells.respectIgnoreFiles, same.compiler,
    same.analyzeSource_eq, same.ofSource_eq⟩

end HouseStyle.Settings
