import HouseStyle.Proofs.Inspection
import HouseStyle.Proofs.RuleSelection
import Mathlib.Logic.Function.Basic
import Mathlib.Logic.Relation

/-!
# Edits of the settings that change no analysis

A rule looks at two sections, reads a few options in the one that counts, and takes from a value
only what is of the right sort. Whatever else stands in the settings can be edited without an effect
on what is reported:

* `Section.Edit` and `Settings.Edit`: the edits, within a section and of the sections as a whole.
* `Section.Edit.agree`: an edit within a section leaves every option as its rule reads it.
* `Settings.Edit.alike`: an edit leaves every rule on or off, with the options it reads.
* `Settings.SameRules`: settings with the same rules, whichever way they came to be, give the same
  analyses and inspections.
-/

namespace HouseStyle
open Function

/-! ## Options -/

inductive OptionSort where
  | number
  | text
  | texts
  deriving DecidableEq, Repr

def Toml.Value.isText : Toml.Value → Bool
  | .string _ => true
  | _ => false

def OptionSort.fits : OptionSort → Toml.Value → Bool
  | .number, .integer value => 0 ≤ value
  | .text, .string _ => true
  | .texts, .array _ => true
  | _, _ => false

def RuleId.reads : RuleId → String → Option OptionSort
  | .header, "scan_lines" => some .number
  | .header, "window" => some .number
  | .functionDoc, "window" => some .number
  | .errorHandling, "functions" => some .texts
  | .errorHandling, "lookahead" => some .number
  | .compilation, "compiler" => some .text
  | .compilation, "flags" => some .texts
  | .compilation, "timeout_secs" => some .number
  | _, _ => none

namespace Section

def under (options : Section) (key : String) : Option Toml.Value :=
  options.options.lookup key

/-- The second section is the first one with a value put under the key, or with the key taken
out. -/
structure Changed (key : String) (value : Option Toml.Value) (before after : Section) : Prop where
  enabled : after.enabled = before.enabled
  under : after.under = update before.under key value

inductive Edit (id : RuleId) (before after : Section) : Prop where
  | unread (key : String) (unread : id.reads key = none) (changed : Changed key none before after)
  | misfit (key : String) (sort : OptionSort) (value : Toml.Value) (reads : id.reads key = some sort)
      (found : before.under key = some value) (misfit : sort.fits value = false)
      (changed : Changed key none before after)
  | items (key : String) (items : List Toml.Value) (reads : id.reads key = some .texts)
      (found : before.under key = some (.array items))
      (changed : Changed key (some (.array (items.filter (·.isText)))) before after)

end Section

def OptionSort.Agree (first second : Section) (key : String) : OptionSort → Prop
  | .number => first.natural? key = second.natural? key
  | .text => first.string key = second.string key
  | .texts => first.strings key = second.strings key

namespace OptionSort

variable {first second : Section} {key : String}

theorem agree_of_under (sort : OptionSort) (same : first.under key = second.under key) :
    sort.Agree first second key := by
  have lookup : first.options.lookup key = second.options.lookup key := same
  cases sort with
  | number => rw [Agree, Section.natural?, Section.natural?, lookup]
  | text =>
      funext default
      rw [Section.string, Section.string, lookup]
  | texts => rw [Agree, Section.strings, Section.strings, lookup]

theorem agree_of_misfit {sort : OptionSort} {value : Toml.Value}
    (found : first.under key = some value) (misfit : sort.fits value = false)
    (removed : second.under key = none) : sort.Agree first second key := by
  have isValue : first.options.lookup key = some value := found
  have isNone : second.options.lookup key = none := removed
  cases sort with
  | number =>
      rw [Agree, Section.natural?, Section.natural?, isValue, isNone]
      cases value with
      | integer value => exact if_neg (of_decide_eq_false misfit)
      | _ => rfl
  | text =>
      funext default
      rw [Section.string, Section.string, isValue, isNone]
      cases value with
      | string text => contradiction
      | _ => rfl
  | texts =>
      rw [Agree, Section.strings, Section.strings, isValue, isNone]
      cases value with
      | array items => contradiction
      | _ => rfl

theorem agree_of_items {items : List Toml.Value} (found : first.under key = some (.array items))
    (filtered : second.under key = some (.array (items.filter (·.isText)))) :
    texts.Agree first second key := by
  have isArray : first.options.lookup key = some (.array items) := found
  have isFiltered : second.options.lookup key = some (.array (items.filter (·.isText))) := filtered
  simp only [Agree, Section.strings, isArray, isFiltered, List.filterMap_filter]
  refine List.filterMap_congr fun item _ => ?_
  cases item <;> rfl

end OptionSort

namespace Section

def Agree (id : RuleId) (first second : Section) : Prop :=
  ∀ key sort, id.reads key = some sort → sort.Agree first second key

theorem Agree.refl (id : RuleId) (options : Section) : Agree id options options :=
  fun _ sort _ => sort.agree_of_under rfl

variable {id : RuleId} {before after : Section}

theorem Changed.agree {key : String} {value : Option Toml.Value}
    (changed : Changed key value before after)
    (here : ∀ sort, id.reads key = some sort → sort.Agree before after key) :
    Agree id before after := by
  intro other sort reads
  by_cases same : other = key
  · exact same ▸ here sort (same ▸ reads)
  · refine sort.agree_of_under ?_
    rw [changed.under, update_of_ne same]

theorem Edit.enabled (edit : Edit id before after) : after.enabled = before.enabled := by
  cases edit with
  | unread key unread changed => exact changed.enabled
  | misfit key sort value reads found misfit changed => exact changed.enabled
  | items key items reads found changed => exact changed.enabled

theorem Edit.agree (edit : Edit id before after) : Agree id before after := by
  cases edit with
  | unread key unread changed =>
      refine changed.agree fun sort reads => ?_
      rw [unread] at reads
      contradiction
  | misfit key sort value isRead found misfit changed =>
      refine changed.agree fun other reads => ?_
      obtain rfl : sort = other := Option.some.inj (isRead.symm.trans reads)
      refine OptionSort.agree_of_misfit found misfit ?_
      rw [changed.under, update_self]
  | items key items isRead found changed =>
      refine changed.agree fun sort reads => ?_
      obtain rfl : .texts = sort := Option.some.inj (isRead.symm.trans reads)
      refine OptionSort.agree_of_items found ?_
      rw [changed.under, update_self]

end Section

/-! ## Rules -/

theorem Compiler.ofSection_congr {first second : Section}
    (agree : Section.Agree .compilation first second) :
    Compiler.ofSection first = Compiler.ofSection second := by
  have tool : first.string "compiler" = second.string "compiler" := agree "compiler" .text rfl
  have flags : first.strings "flags" = second.strings "flags" := agree "flags" .texts rfl
  have limit : first.natural? "timeout_secs" = second.natural? "timeout_secs" :=
    agree "timeout_secs" .number rfl
  rw [ofSection, ofSection, tool, flags, limit]

theorem RuleId.ruleOf_congr {id : RuleId} {first second : Section}
    (agree : Section.Agree id first second) (checkerOf : Compiler → Checker) :
    id.ruleOf checkerOf first = id.ruleOf checkerOf second := by
  cases id with
  | header =>
      have scanLines : first.natural? "scan_lines" = second.natural? "scan_lines" :=
        agree "scan_lines" .number rfl
      have window : first.natural? "window" = second.natural? "window" :=
        agree "window" .number rfl
      simp only [ruleOf, HeaderRule.ofSection, Section.natural, scanLines, window]
  | functionDoc =>
      have window : first.natural? "window" = second.natural? "window" :=
        agree "window" .number rfl
      simp only [ruleOf, FunctionDocRule.ofSection, Section.natural, window]
  | indentation => rfl
  | headerGuard => rfl
  | errorHandling =>
      have functions : first.strings "functions" = second.strings "functions" :=
        agree "functions" .texts rfl
      have lookahead : first.natural? "lookahead" = second.natural? "lookahead" :=
        agree "lookahead" .number rfl
      simp only [ruleOf, ErrorHandlingRule.ofSection, Section.natural, functions, lookahead]
  | compilation => rw [ruleOf, ruleOf, Compiler.ofSection_congr agree]

theorem RuleId.name_ne_code (id : RuleId) : id.name ≠ id.code := by
  cases id <;> decide

/-! ## Sections -/

namespace Settings

def under (settings : Settings) (key : String) : Option Section :=
  settings.sections.lookup key

/-- The edits of the settings that no rule notices: a section under the code of a rule moves to its
name if there is none; a section under the code changes that another one under the name shadows; a
section comes, goes or changes whose key calls no rule; and a section is edited within. -/
inductive Edit (before after : Settings) : Prop where
  | move (id : RuleId) (options : Section) (coded : before.under id.code = some options)
      (unnamed : before.under id.name = none)
      (changed : after.under = update (update before.under id.code none) id.name (some options))
  | shadowed (id : RuleId) (named coded options : Section)
      (isNamed : before.under id.name = some named) (isCoded : before.under id.code = some coded)
      (enabled : options.enabled = coded.enabled ∨ named.enabled ≠ none)
      (changed : after.under = update before.under id.code (some options))
  | foreign (key : String) (options : Option Section)
      (foreign : ∀ id : RuleId, key ≠ id.name ∧ key ≠ id.code)
      (changed : after.under = update before.under key options)
  | within (id : RuleId) (key : String) (calls : key = id.name ∨ key = id.code)
      (options edited : Section) (found : before.under key = some options)
      (edit : Section.Edit id options edited)
      (changed : after.under = update before.under key (some edited))

structure Alike (id : RuleId) (first second : Settings) : Prop where
  enabled : first.isRuleEnabled id = second.isRuleEnabled id
  options : Section.Agree id (first.optionsOf id) (second.optionsOf id)

variable {settings before after : Settings} {id : RuleId}

theorem sectionsOf_eq : settings.sectionsOf id.name id.code =
    (settings.under id.name).toList ++ (settings.under id.code).toList := by
  rw [sectionsOf, List.filterMap_cons, List.filterMap_cons, List.filterMap_nil, under, under]
  cases settings.sections.lookup id.name <;> cases settings.sections.lookup id.code <;> rfl

theorem isRuleEnabled_eq : settings.isRuleEnabled id =
    (((settings.under id.name).bind (·.enabled)).or
      ((settings.under id.code).bind (·.enabled))).getD true := by
  rw [isRuleEnabled, isEnabled, sectionsOf_eq, List.findSome?_append]
  cases settings.under id.name <;> cases settings.under id.code <;> simp

theorem optionsOf_eq : settings.optionsOf id =
    ((settings.under id.name).or (settings.under id.code)).getD {} := by
  rw [optionsOf, section?, sectionsOf_eq]
  cases settings.under id.name <;> cases settings.under id.code <;> rfl

theorem Alike.of_sections (name : after.under id.name = before.under id.name)
    (code : after.under id.code = before.under id.code) : Alike id before after := by
  constructor
  · rw [isRuleEnabled_eq, isRuleEnabled_eq, name, code]
  · rw [optionsOf_eq, optionsOf_eq, name, code]
    exact .refl id _

theorem Alike.of_rule {rule : RuleId} (own : Alike rule before after)
    (outside : ∀ key, key ≠ rule.name → key ≠ rule.code → after.under key = before.under key)
    (id : RuleId) : Alike id before after := by
  by_cases same : id = rule
  · exact same ▸ own
  · have ne {key key' : String} (calls : key = id.name ∨ key = id.code)
        (calls' : key' = rule.name ∨ key' = rule.code) : key ≠ key' :=
      RuleId.key_ne_of_ne same calls calls'
    refine .of_sections ?_ ?_
    · exact outside _ (ne (.inl rfl) (.inl rfl)) (ne (.inl rfl) (.inr rfl))
    · exact outside _ (ne (.inr rfl) (.inl rfl)) (ne (.inr rfl) (.inr rfl))

theorem Alike.of_move {options : Section} (coded : before.under id.code = some options)
    (unnamed : before.under id.name = none)
    (changed : after.under = update (update before.under id.code none) id.name (some options)) :
    Alike id before after := by
  have named : after.under id.name = some options := by rw [changed, update_self]
  have uncoded : after.under id.code = none := by
    rw [changed, update_of_ne id.name_ne_code.symm, update_self]
  constructor
  · simp [isRuleEnabled_eq, coded, unnamed, named, uncoded]
  · rw [optionsOf_eq, optionsOf_eq, coded, unnamed, named, uncoded]
    exact .refl id _

theorem Alike.of_shadowed {named coded options : Section}
    (isNamed : before.under id.name = some named) (isCoded : before.under id.code = some coded)
    (enabled : options.enabled = coded.enabled ∨ named.enabled ≠ none)
    (changed : after.under = update before.under id.code (some options)) :
    Alike id before after := by
  have stillNamed : after.under id.name = some named := by
    rw [changed, update_of_ne id.name_ne_code, isNamed]
  have recoded : after.under id.code = some options := by rw [changed, update_self]
  constructor
  · rw [isRuleEnabled_eq, isRuleEnabled_eq, isNamed, isCoded, stillNamed, recoded]
    rcases enabled with same | sets
    · simp [same]
    · obtain ⟨flag, isFlag⟩ := Option.ne_none_iff_exists'.mp sets
      simp [isFlag]
  · rw [optionsOf_eq, optionsOf_eq, isNamed, isCoded, stillNamed, recoded]
    exact .refl id _

theorem Alike.of_within {key : String} (calls : key = id.name ∨ key = id.code)
    {options edited : Section} (found : before.under key = some options)
    (edit : Section.Edit id options edited)
    (changed : after.under = update before.under key (some edited)) : Alike id before after := by
  have isEdited : after.under key = some edited := by rw [changed, update_self]
  rcases calls with rfl | rfl
  · have code : after.under id.code = before.under id.code := by
      rw [changed, update_of_ne id.name_ne_code.symm]
    constructor
    · simp [isRuleEnabled_eq, found, isEdited, code, edit.enabled]
    · rw [optionsOf_eq, optionsOf_eq, found, isEdited]
      exact edit.agree
  · have name : after.under id.name = before.under id.name := by
      rw [changed, update_of_ne id.name_ne_code]
    constructor
    · simp [isRuleEnabled_eq, found, isEdited, name, edit.enabled]
    · rw [optionsOf_eq, optionsOf_eq, found, isEdited, name]
      cases before.under id.name with
      | none => exact edit.agree
      | some named => exact .refl id named

theorem Edit.alike (edit : Edit before after) (id : RuleId) : Alike id before after := by
  cases edit with
  | move rule options coded unnamed changed =>
      refine .of_rule (.of_move coded unnamed changed) (fun key name code => ?_) id
      rw [changed, update_of_ne name, update_of_ne code]
  | shadowed rule named coded options isNamed isCoded enabled changed =>
      refine .of_rule (.of_shadowed isNamed isCoded enabled changed) (fun key _ code => ?_) id
      rw [changed, update_of_ne code]
  | foreign key options foreign changed =>
      obtain ⟨name, code⟩ := foreign id
      refine .of_sections ?_ ?_
      · rw [changed, update_of_ne name.symm]
      · rw [changed, update_of_ne code.symm]
  | within rule key calls options edited found edit changed =>
      refine .of_rule (.of_within calls found edit changed) (fun other name code => ?_) id
      have ne : other ≠ key := by
        rcases calls with rfl | rfl
        · exact name
        · exact code
      rw [changed, update_of_ne ne]

/-! ## Analyses -/

/-- Both settings have the same rules on, and give each rule the same limits and lists and the same
compiler. -/
structure SameRules (first second : Settings) : Prop where
  enabled : ∀ id, first.isRuleEnabled id = second.isRuleEnabled id
  rule : ∀ checkerOf id, first.rule checkerOf id = second.rule checkerOf id
  compiler : Compiler.ofSection (first.optionsOf .compilation) =
    Compiler.ofSection (second.optionsOf .compilation)

theorem Edit.sameRules (edit : Edit before after) : SameRules before after where
  enabled := fun id => (edit.alike id).enabled
  rule := fun checkerOf id => RuleId.ruleOf_congr (edit.alike id).options checkerOf
  compiler := Compiler.ofSection_congr (edit.alike .compilation).options

namespace SameRules

variable {first second : Settings} (same : SameRules first second)

include same

theorem analyzeSource_eq (checkerOf : Compiler → Checker) (source : Source) :
    (first.analyzer checkerOf).analyzeSource source =
      (second.analyzer checkerOf).analyzeSource source := by
  rw [analyzeSource_analyzer, analyzeSource_analyzer]
  refine List.flatMap_congr fun id _ => ?_
  rw [reported, reported, same.enabled, same.rule]

theorem ruleFor_eq (processes : Processes) (host : Host) (path : Path) (id : RuleId) :
    Inspection.ruleFor processes first host path id =
      Inspection.ruleFor processes second host path id := by
  rw [Inspection.ruleFor, Inspection.ruleFor]
  split
  · rename_i isCompilation
    subst isCompilation
    rw [same.compiler]
  · rw [same.rule]

theorem ofSource_eq (processes : Processes) (ids : List RuleId) (host : Host) (source : Source) :
    Inspection.ofSource processes first ids host source =
      Inspection.ofSource processes second ids host source := by
  have step : Inspection.checkRule processes first source =
      Inspection.checkRule processes second source := by
    funext inspection id
    rw [Inspection.checkRule, Inspection.checkRule, same.enabled, same.ruleFor_eq]
  rw [Inspection.ofSource, Inspection.ofSource, step]

end SameRules

theorem Edit.analyzeSource_eq (edit : Edit before after) (checkerOf : Compiler → Checker)
    (source : Source) : (before.analyzer checkerOf).analyzeSource source =
      (after.analyzer checkerOf).analyzeSource source :=
  edit.sameRules.analyzeSource_eq checkerOf source

theorem Edit.ofSource_eq (edit : Edit before after) (processes : Processes) (ids : List RuleId)
    (host : Host) (source : Source) :
    Inspection.ofSource processes before ids host source =
      Inspection.ofSource processes after ids host source :=
  edit.sameRules.ofSource_eq processes ids host source

/-- Settings that a chain of such edits leads to, forwards or backwards, make no difference to what
is reported about a file, and none to an inspection of it, to its warnings and to the host after
it. -/
theorem analyzeSource_equivalent {settings settings' : Settings}
    (equivalent : Relation.EqvGen Edit settings settings') (checkerOf : Compiler → Checker)
    (source : Source) :
    (settings.analyzer checkerOf).analyzeSource source =
      (settings'.analyzer checkerOf).analyzeSource source ∧
    ∀ (processes : Processes) (ids : List RuleId) (host : Host),
      Inspection.ofSource processes settings ids host source =
        Inspection.ofSource processes settings' ids host source := by
  induction equivalent with
  | rel before after edit =>
      exact ⟨edit.analyzeSource_eq checkerOf source,
        fun processes ids host => edit.ofSource_eq processes ids host source⟩
  | refl settings => exact ⟨rfl, fun _ _ _ => rfl⟩
  | symm first second _ ih =>
      exact ⟨ih.1.symm, fun processes ids host => (ih.2 processes ids host).symm⟩
  | trans first second third _ _ ih ih' =>
      exact ⟨ih.1.trans ih'.1,
        fun processes ids host => (ih.2 processes ids host).trans (ih'.2 processes ids host)⟩

theorem analyzeSource_equivalent_moved :
    let limits : Section := { options := [("window", .integer 5)] }
    let misspelt : Section := { enabled := some false }
    let before : Settings := { sections := [
      ("CS001", { options := [("scan_lines", .integer (-3)), ("window", .integer 5)] }),
      ("heading", misspelt)] }
    let after : Settings := { sections := [("header", limits)] }
    let checkerOf : Compiler → Checker := fun _ _ => .ok .passed
    let source := Source.ofText "x.c" "/*\n\n\n\n\nFile: Author: Purpose:\n*/".toList
    Relation.EqvGen Edit before after ∧
    (before.analyzer checkerOf).analyzeSource source =
      (after.analyzer checkerOf).analyzeSource source ∧
    ((after.analyzer checkerOf).analyzeSource source).length = 3 := by
  intro limits misspelt before after checkerOf source
  let cleaned : Settings := { sections := [("CS001", limits), ("heading", misspelt)] }
  let moved : Settings := { sections := [("header", limits), ("heading", misspelt)] }
  have limit : Edit before cleaned := by
    refine .within .header "CS001" (.inr rfl) _ limits rfl
      (.misfit "scan_lines" .number _ rfl rfl rfl ⟨rfl, ?_⟩) ?_
    · funext key
      grind [Section.under, update_apply]
    · funext key
      grind [under, update_apply]
  have move : Edit cleaned moved := by
    refine .move .header limits rfl rfl ?_
    funext key
    grind [under, update_apply, RuleId.name, RuleId.code]
  have removal : Edit moved after := by
    refine .foreign "heading" none (fun id => by cases id <;> decide) ?_
    funext key
    grind [under, update_apply]
  have chain : Relation.EqvGen Edit before after :=
    .trans _ _ _ (.rel _ _ limit) (.trans _ _ _ (.rel _ _ move) (.rel _ _ removal))
  exact ⟨chain, (analyzeSource_equivalent chain checkerOf source).1, by decide +kernel⟩

end Settings

end HouseStyle
