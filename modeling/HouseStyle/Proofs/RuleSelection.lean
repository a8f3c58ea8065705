import HouseStyle.CommandLine.Run
import HouseStyle.Proofs.Distinct
import HouseStyle.Proofs.Inspection

namespace HouseStyle

/-! ## The rules that a list names -/

namespace RuleId

def isCalledBy (id : RuleId) (item : List Char) : Bool :=
  String.ofList (Text.trim item) = id.name || String.ofList (Text.trim item) = id.code

theorem find?_eq_some_iff {key : String} {id : RuleId} :
    find? key = some id ↔ key = id.name ∨ key = id.code := by
  constructor
  · intro found
    have calls := List.find?_some found
    rw [Bool.or_eq_true, decide_eq_true_eq, decide_eq_true_eq] at calls
    exact calls.imp Eq.symm Eq.symm
  · rintro (rfl | rfl) <;> cases id <;> decide

theorem key_ne_of_ne {id other : RuleId} (different : other ≠ id) {key key' : String}
    (calls : key = other.name ∨ key = other.code) (calls' : key' = id.name ∨ key' = id.code) :
    key ≠ key' := by
  rintro rfl
  have found := find?_eq_some_iff.mpr calls
  rw [find?_eq_some_iff.mpr calls'] at found
  exact different (Option.some.inj found).symm

theorem find?_trim_eq_some_iff {item : List Char} {id : RuleId} :
    find? (String.ofList (Text.trim item)) = some id ↔ id.isCalledBy item = true := by
  rw [find?_eq_some_iff, isCalledBy, Bool.or_eq_true, decide_eq_true_eq, decide_eq_true_eq]

def firstCall (id : RuleId) (list : String) : Nat :=
  (Text.splitAt ',' list.toList).findIdx id.isCalledBy

end RuleId

/-- The rules that a list names: those that an item between commas calls, each of them once, in the
order of the items that call them first. -/
structure Named (list : String) (ids : List RuleId) : Prop where
  once : ids.Nodup
  called : ∀ id, id ∈ ids ↔ ∃ item ∈ Text.splitAt ',' list.toList, id.isCalledBy item = true
  order : ids.Pairwise fun first second => first.firstCall list < second.firstCall list

namespace CheckOptions

theorem filterMap_ruleNames (list : String) : (ruleNames list).filterMap RuleId.find? =
    (Text.splitAt ',' list.toList).filterMap fun item =>
      RuleId.find? (String.ofList (Text.trim item)) := by
  rw [ruleNames, List.filterMap_map, List.filterMap_filter, List.filterMap_map]
  refine List.filterMap_congr fun item _ => ?_
  by_cases empty : Text.trim item = []
  · have unknown : RuleId.find? "" = none := by decide
    simp [empty, unknown]
  · simp [empty]

theorem named_ruleIds (options : CheckOptions) (list : String) :
    Named list { options with rules := some list }.ruleIds := by
  change Named list ((ruleNames list).filterMap RuleId.find?).eraseDups
  rw [filterMap_ruleNames]
  refine ⟨nodup_eraseDups _, fun id => ?_, ?_⟩
  · simp only [List.mem_eraseDups, List.mem_filterMap, RuleId.find?_trim_eq_some_iff]
  · refine (eraseDups_filterMap_increasing _ _).imp fun {first second} before => ?_
    simpa only [RuleId.firstCall, firstSeen, RuleId.find?_trim_eq_some_iff, Bool.decide_eq_true]
      using before

end CheckOptions

/-! ## The findings of one rule -/

namespace Settings

variable {settings : Settings} {checkerOf : Compiler → Checker} {source : Source}

theorem kind_of_mem_reported {finding : Finding} {id : RuleId}
    (member : finding ∈ settings.reported checkerOf source id) : finding.kind ∈ id.kinds := by
  have kind := Rule.kind_mem_kinds _ (mem_reported_iff.mp member).2.2
  rwa [id_rule] at kind

theorem filter_reported (id other : RuleId) :
    (settings.reported checkerOf source other).filter (·.kind ∈ id.kinds) =
      if other = id then settings.reported checkerOf source other else [] := by
  split
  · rename_i same
    refine List.filter_eq_self.mpr fun finding member => ?_
    simpa [← same] using kind_of_mem_reported member
  · rename_i different
    refine List.filter_eq_nil_iff.mpr fun finding member => ?_
    -- A finding of this kind would be one of two rules.
    have kind := kind_of_mem_reported member
    simpa using fun ofRule => different (RuleId.eq_of_mem_kinds kind ofRule)

theorem filter_not_reported (id other : RuleId) :
    (settings.reported checkerOf source other).filter (·.kind ∉ id.kinds) =
      if other = id then [] else settings.reported checkerOf source other := by
  have part : (settings.reported checkerOf source other).filter (·.kind ∈ id.kinds) = _ :=
    filter_reported id other
  split at part
  · rename_i same
    rw [if_pos same]
    refine List.filter_eq_nil_iff.mpr fun finding member => ?_
    simpa [← same] using kind_of_mem_reported member
  · rename_i different
    rw [if_neg different]
    refine List.filter_eq_self.mpr fun finding member => ?_
    simpa using List.filter_eq_nil_iff.mp part finding member

theorem filter_analyzeSource (id : RuleId) :
    ((settings.analyzer checkerOf).analyzeSource source).filter (·.kind ∈ id.kinds) =
      settings.reported checkerOf source id := by
  rw [analyzeSource_analyzer, List.filter_flatMap]
  simp only [filter_reported]
  cases id <;> simp [RuleId.all]

theorem analyzeSource_selected (ids : List RuleId) :
    (⟨ids.map (settings.rule checkerOf), settings⟩ : Analyzer).analyzeSource source =
      ids.flatMap fun id =>
        ((settings.analyzer checkerOf).analyzeSource source).filter (·.kind ∈ id.kinds) := by
  simp only [analyzeSource_rules, filter_analyzeSource]

/-! ## Switching a rule off -/

/-- The settings in which the section under a key is switched off. It keeps its options, and it is
made if it is not there. -/
def switchOff (settings : Settings) (key : String) : Settings :=
  let old := (settings.sections.lookup key).getD {}
  { settings with
    sections := (key, { old with enabled := some false }) ::
      settings.sections.filter (·.1 ≠ key) }

theorem lookup_cons_of_ne {key other : String} (different : other ≠ key) (options : Section)
    (sections : List (String × Section)) :
    ((key, options) :: sections).lookup other = sections.lookup other := by
  rw [List.lookup_cons, beq_eq_false_iff_ne.mpr different]

theorem lookup_filter_of_ne {key other : String} (different : other ≠ key)
    (sections : List (String × Section)) :
    (sections.filter (·.1 ≠ key)).lookup other = sections.lookup other := by
  induction sections with
  | nil => rfl
  | cons first rest ih =>
      obtain ⟨name, options⟩ := first
      by_cases same : name = key
      · rw [List.filter_cons_of_neg (by simpa using same), ih, same, lookup_cons_of_ne different]
      · rw [List.filter_cons_of_pos (by simpa using same), List.lookup_cons, List.lookup_cons, ih]

theorem lookup_switchOff_of_ne {key other : String} (different : other ≠ key) :
    (settings.switchOff key).sections.lookup other = settings.sections.lookup other := by
  rw [switchOff, lookup_cons_of_ne different, lookup_filter_of_ne different]

theorem sectionsOf_switchOff {id other : RuleId} (different : other ≠ id) :
    (settings.switchOff id.name).sectionsOf other.name other.code =
      settings.sectionsOf other.name other.code := by
  have name : other.name ≠ id.name := RuleId.key_ne_of_ne different (.inl rfl) (.inl rfl)
  have code : other.code ≠ id.name := RuleId.key_ne_of_ne different (.inr rfl) (.inl rfl)
  simp only [sectionsOf, List.filterMap_cons, lookup_switchOff_of_ne name,
    lookup_switchOff_of_ne code, List.filterMap_nil]

theorem isRuleEnabled_switchOff (id : RuleId) :
    (settings.switchOff id.name).isRuleEnabled id = false := by
  simp [isRuleEnabled, isEnabled, sectionsOf, switchOff]

theorem reported_switchOff (id other : RuleId) :
    (settings.switchOff id.name).reported checkerOf source other =
      if other = id then [] else settings.reported checkerOf source other := by
  split
  · rename_i same
    subst same
    simp [reported, isRuleEnabled_switchOff]
  · rename_i different
    have sections : (settings.switchOff id.name).sectionsOf other.name other.code = _ :=
      sectionsOf_switchOff different
    have enabled : (settings.switchOff id.name).isRuleEnabled other =
        settings.isRuleEnabled other := by
      rw [isRuleEnabled, isEnabled, sections, isRuleEnabled, isEnabled]
    have options : (settings.switchOff id.name).optionsOf other = settings.optionsOf other := by
      rw [optionsOf, section?, sections, optionsOf, section?]
    rw [reported, reported, enabled, rule, options, rule]

theorem analyzeSource_switchOff (id : RuleId) :
    ((settings.switchOff id.name).analyzer checkerOf).analyzeSource source =
      ((settings.analyzer checkerOf).analyzeSource source).filter (·.kind ∉ id.kinds) := by
  rw [analyzeSource_analyzer, analyzeSource_analyzer, List.filter_flatMap]
  refine List.flatMap_congr fun other _ => ?_
  rw [reported_switchOff, filter_not_reported]

/-- Selecting rules restricts what is reported, and changes nothing else. Whatever the settings, the
file and the compiler, a list on the command line leaves, for each rule that it names, the findings
of the kinds of that rule, one rule after the other; and switching a rule off in the section under
its name takes away the findings of its kinds. An inspection of the file on a host is restricted in
the same way. -/
theorem selection_restricts (settings : Settings) (checkerOf : Compiler → Checker) (path : Path)
    (text : List Char) :
    let source := Source.ofText path text
    let all := (settings.analyzer checkerOf).analyzeSource source
    (∀ (options : CheckOptions) (list : String),
      let ids := { options with rules := some list }.ruleIds
      Named list ids ∧
      (⟨ids.map (settings.rule checkerOf), settings⟩ : Analyzer).analyzeSource source =
        ids.flatMap (fun id => all.filter (·.kind ∈ id.kinds)) ∧
      ∀ (processes : Processes) (host : Host),
        (Inspection.ofSource processes settings ids host source).report.findings =
          ids.flatMap fun id =>
            (Inspection.ofSource processes settings RuleId.all host source).report.findings.filter
              (·.kind ∈ id.kinds)) ∧
    ∀ id : RuleId,
      ((settings.switchOff id.name).analyzer checkerOf).analyzeSource source =
        all.filter (·.kind ∉ id.kinds) ∧
      ∀ (processes : Processes) (host : Host),
        (Inspection.ofSource processes (settings.switchOff id.name) RuleId.all host
          source).report.findings =
          (Inspection.ofSource processes settings RuleId.all host source).report.findings.filter
            (·.kind ∉ id.kinds) := by
  have once : RuleId.all.Nodup := by decide
  refine ⟨fun options list => ?_, fun id => ⟨analyzeSource_switchOff id, fun processes host => ?_⟩⟩
  · have named := CheckOptions.named_ruleIds options list
    refine ⟨named, analyzeSource_selected _, fun processes host => ?_⟩
    rw [Inspection.findings_ofSource settings named.once, analyzeSource_selected,
      Inspection.findings_ofSource settings once]
    rfl
  · rw [Inspection.findings_ofSource _ once, Inspection.findings_ofSource _ once]
    exact analyzeSource_switchOff id

end Settings

end HouseStyle
