import HouseStyle.Proofs.Finding
import HouseStyle.Proofs.Grouping
import HouseStyle.Proofs.Text
import HouseStyle.Report.Text
import HouseStyle.Text.Digits
import Mathlib.Algebra.GroupWithZero.Nat

namespace HouseStyle.TextReport
open Text

/-! ## The reader -/

structure ShownGroup where
  kind : Kind
  count : Nat
  entries : List String
  deriving DecidableEq

inductive Contents where
  | clean (files : List String)
  | found (total : Nat) (groups : List ShownGroup)
  deriving DecidableEq

def after? (mark line : List Char) : Option (List Char) :=
  if mark.isPrefixOf line then some (line.drop mark.length) else none

def leadingNumber (text : List Char) : Nat :=
  digitsValue 10 (text.takeWhile Char.isDigit)

def heading? (line : List Char) : Option (Kind × Nat) :=
  (Kind.ofLabel? (String.ofList (line.takeWhile (· ≠ ' ')))).map fun kind =>
    (kind, leadingNumber ((line.dropWhile (· ≠ ' ')).drop 2))

/-- Read a line, where it is known what the lines after it say: the entries above which no heading
was met yet, and the groups. -/
def readLine (line : List Char) (later : List String × List ShownGroup) :
    List String × List ShownGroup :=
  match after? [' ', ' '] line with
  | some entry => (String.ofList entry :: later.1, later.2)
  | none =>
    match heading? line with
    | some (kind, count) => ([], ⟨kind, count, later.1⟩ :: later.2)
    | none => later

def readGroups (lines : List (List Char)) : List ShownGroup :=
  (lines.foldr readLine ([], [])).2

def readFiles (lines : List (List Char)) : List String :=
  lines.filterMap fun line => (after? [' ', ' ', '-', ' '] line).map String.ofList

def readText (text : String) : Contents :=
  match (splitAt '\n' text.toList).drop 4 with
  | [] => .clean []
  | verdict :: lines =>
    match after? "❌ Found ".toList verdict with
    | some total => .found (leadingNumber total) (readGroups lines)
    | none => .clean (readFiles lines)

/-! ## The parts of a report -/

theorem after?_append (mark rest : List Char) : after? mark (mark ++ rest) = some rest := by
  simp [after?, List.isPrefixOf_iff_prefix]

theorem leadingNumber_toDigits (number : Nat) {rest : List Char}
    (stop : ∀ c ∈ rest.head?, c.isDigit = false) :
    leadingNumber (Nat.toDigits 10 number ++ rest) = number := by
  rw [leadingNumber, takeWhile_run (fun c => Nat.isDigit_of_mem_toDigits (by decide) (by decide)) stop,
    digitsValue_toDigits]

def shown (group : Kind × List Finding) : ShownGroup :=
  ⟨group.1, group.2.length, group.2.map Finding.entry⟩

theorem readLine_entry (finding : Finding) (later : List String × List ShownGroup) :
    readLine ("  " ++ finding.entry).toList later = (finding.entry :: later.1, later.2) := by
  have entry : after? [' ', ' '] ("  " ++ finding.entry).toList = some finding.entry.toList := by
    rw [String.toList_append]
    exact after?_append _ _
  simp only [readLine, entry, String.ofList_toList]

theorem foldr_entries (findings : List Finding) (later : List String × List ShownGroup) :
    (findings.map fun finding => ("  " ++ finding.entry).toList).foldr readLine later =
      (findings.map Finding.entry ++ later.1, later.2) := by
  induction findings with
  | nil => rfl
  | cons finding findings ih => rw [List.map_cons, List.foldr_cons, ih, readLine_entry]; rfl

theorem heading_toList (kind : Kind) (count : Nat) :
    (kind.label ++ " (" ++ Report.countText count ++ " violations):").toList =
      kind.label.toList ++ ' ' :: '(' :: (Nat.toDigits 10 count ++ " violations):".toList) := by
  simp [Report.countText]

theorem readLine_heading (kind : Kind) (count : Nat) (later : List String × List ShownGroup) :
    readLine (kind.label ++ " (" ++ Report.countText count ++ " violations):").toList later =
      ([], ⟨kind, count, later.1⟩ :: later.2) := by
  rw [heading_toList]
  have noEntry (rest : List Char) : after? [' ', ' '] (kind.label.toList ++ rest) = none := by
    cases kind <;> rfl
  have inside : ∀ c ∈ kind.label.toList, decide (c ≠ ' ') = true :=
    fun c member => decide_eq_true (kind.label_chars c member).1
  have stop (rest : List Char) : ∀ c ∈ (' ' :: rest).head?, decide (c ≠ ' ') = false := by simp
  have number : leadingNumber (Nat.toDigits 10 count ++ " violations):".toList) = count :=
    leadingNumber_toDigits count (by rintro c ⟨⟩; rfl)
  have heading : heading? (kind.label.toList ++
      ' ' :: '(' :: (Nat.toDigits 10 count ++ " violations):".toList)) = some (kind, count) := by
    rw [heading?, takeWhile_run inside (stop _), dropWhile_run inside (stop _), String.ofList_toList,
      Kind.ofLabel?_label]
    simp only [Option.map_some, List.drop_succ_cons, List.drop_zero, number]
  rw [readLine, noEntry, heading]

theorem readLine_empty (later : List String × List ShownGroup) : readLine [] later = later := rfl

theorem reference_apart : ∀ line ∈ Report.reference,
    '\n' ∉ line.toList ∧ line.toList.head? ≠ some ' ' ∧ heading? line.toList = none := by
  decide +kernel

theorem after?_eq_none {mark line : List Char} (different : line.head? ≠ mark.head?)
    (nonempty : mark ≠ []) : after? mark line = none := by
  refine if_neg fun isPrefix => ?_
  obtain ⟨rest, rfl⟩ := List.isPrefixOf_iff_prefix.mp isPrefix
  exact different (List.head?_append_of_ne_nil _ nonempty)

theorem foldr_groupLines (group : Kind × List Finding) (groups : List ShownGroup) :
    ((Report.groupLines group).map String.toList).foldr readLine ([], groups) =
      ([], shown group :: groups) := by
  have entries : (group.2.map fun finding => "  " ++ finding.entry).map String.toList =
      group.2.map fun finding => ("  " ++ finding.entry).toList := by
    rw [List.map_map]
    rfl
  rw [Report.groupLines, List.cons_append, List.map_cons, List.map_append, entries, List.foldr_cons,
    List.foldr_append, List.map_singleton, List.foldr_cons, List.foldr_nil, String.toList_empty,
    readLine_empty, foldr_entries, readLine_heading, List.append_nil]
  rfl

theorem foldr_reference (later : List String × List ShownGroup) :
    (Report.reference.map String.toList).foldr readLine later = later := by
  have skipped : ∀ line ∈ Report.reference, ∀ later, readLine line.toList later = later := by
    intro line member later
    obtain ⟨-, noBlank, noHeading⟩ := reference_apart line member
    rw [readLine, after?_eq_none noBlank (by simp), noHeading]
  rw [List.foldr_map, List.foldr_ext _ _ _ skipped, List.foldr_fixed]

theorem readGroups_lines (groups : List (Kind × List Finding)) :
    readGroups ((groups.flatMap Report.groupLines ++ Report.reference).map String.toList) =
      groups.map shown := by
  suffices folded : ((groups.flatMap Report.groupLines ++ Report.reference).map
      String.toList).foldr readLine ([], []) = ([], groups.map shown) by
    rw [readGroups, folded]
  rw [List.map_append, List.foldr_append, foldr_reference]
  induction groups with
  | nil => rfl
  | cons group groups ih =>
      rw [List.flatMap_cons, List.map_append, List.foldr_append, ih, foldr_groupLines, List.map_cons]

theorem readFiles_lines (files : List Path) :
    readFiles (((files.map fun file => "  - " ++ file.display) ++ Report.reference).map
      String.toList) = files.map Path.display := by
  have reminder : readFiles (Report.reference.map String.toList) = [] := by
    rw [readFiles, List.filterMap_map, List.filterMap_eq_nil_iff]
    intro line member
    obtain ⟨-, noBlank, -⟩ := reference_apart line member
    rw [Function.comp_apply, after?_eq_none noBlank (by simp), Option.map_none]
  induction files with
  | nil => exact reminder
  | cons file files ih =>
      have entry : after? [' ', ' ', '-', ' '] ("  - " ++ file.display).toList =
          some file.display.toList := by
        rw [String.toList_append]
        exact after?_append _ _
      rw [List.map_cons, List.cons_append, List.map_cons, readFiles, List.filterMap_cons, entry]
      simp only [Option.map_some, String.ofList_toList]
      rw [← readFiles, ih, List.map_cons]

/-! ## Lines of a report -/

structure OneLine (report : Report) : Prop where
  files : ∀ file ∈ report.checkedFiles, 0x0A ∉ file.bytes
  paths : ∀ finding ∈ report.findings, 0x0A ∉ finding.location.file.bytes
  messages : ∀ finding ∈ report.findings, '\n' ∉ finding.message.toList

theorem groupLines_oneLine {group : Kind × List Finding}
    (entries : ∀ finding ∈ group.2, '\n' ∉ finding.entry.toList) :
    ∀ line ∈ Report.groupLines group, '\n' ∉ line.toList := by
  intro line member
  simp only [Report.groupLines, List.cons_append, List.mem_cons, List.mem_append, List.mem_map,
    List.not_mem_nil, or_false] at member
  rcases member with rfl | ⟨finding, isMember, rfl⟩ | rfl
  · rw [heading_toList]
    have label : '\n' ∉ group.1.label.toList := fun member => (group.1.label_chars _ member).2 rfl
    simp [label, notMem_toDigits]
  · simp [entries finding isMember]
  · simp

theorem body_oneLine {report : Report} (oneLine : OneLine report) :
    ∀ line ∈ report.body, '\n' ∉ line.toList := by
  intro line member
  rw [Report.body] at member
  split at member
  · simp only [List.mem_append, List.mem_cons, List.not_mem_nil, or_false, List.mem_map] at member
    rcases member with (rfl | rfl | rfl) | ⟨file, isFile, rfl⟩
    · decide +kernel
    · decide
    · simp [Report.countText, notMem_toDigits]
    · have shown : '\n' ∉ file.display.toList :=
        Path.notMem_display (by decide) (oneLine.files file isFile)
      simp [shown]
  · simp only [List.mem_append, List.mem_cons, List.not_mem_nil, or_false, List.mem_flatMap] at member
    rcases member with (rfl | rfl) | ⟨group, isGroup, inGroup⟩
    · simp [Report.countText, notMem_toDigits]
    · decide
    · refine groupLines_oneLine (fun finding isMember => ?_) line inGroup
      rw [(Report.groupsOf_grouped report).members group isGroup] at isMember
      have inReport := (List.mem_filter.mp isMember).1
      exact Finding.entry_oneLine (oneLine.paths finding inReport) (oneLine.messages finding inReport)

theorem textLines_oneLine {report : Report} (oneLine : OneLine report) :
    ∀ line ∈ report.textLines, '\n' ∉ line.toList := by
  have banner : ∀ line ∈ Report.banner, '\n' ∉ line.toList := by decide +kernel
  intro line member
  rw [Report.textLines, List.mem_append, List.mem_append] at member
  rcases member with (inBanner | inBody) | inReference
  · exact banner line inBanner
  · exact body_oneLine oneLine line inBody
  · exact (reference_apart line inReference).1

theorem splitAt_text {report : Report} (oneLine : OneLine report) :
    splitAt '\n' report.text.toList = report.textLines.map String.toList := by
  have newline : "\n".toList = ['\n'] := rfl
  rw [Report.text, String.toList_intercalate, newline]
  refine splitAt_intercalate (by simp [Report.textLines, Report.banner]) fun piece member => ?_
  obtain ⟨line, isLine, rfl⟩ := List.mem_map.mp member
  exact textLines_oneLine oneLine line isLine

/-! ## Reading a report -/

theorem readText_clean {report : Report} (oneLine : OneLine report) (clean : report.findings = []) :
    readText report.text = .clean (report.checkedFiles.map Path.display) := by
  have lines : (splitAt '\n' report.text.toList).drop 4 =
      "✅ No style violations found!".toList :: "".toList ::
        ("Files checked: " ++ Report.countText report.checkedFiles.length).toList ::
        ((report.checkedFiles.map fun file => "  - " ++ file.display) ++ Report.reference).map
          String.toList := by
    rw [splitAt_text oneLine, Report.textLines, Report.body, if_pos clean]
    rfl
  have verdict : after? "❌ Found ".toList "✅ No style violations found!".toList = none := by
    decide +kernel
  have noFile : after? [' ', ' ', '-', ' '] "".toList = none := rfl
  have count : after? [' ', ' ', '-', ' ']
      ("Files checked: " ++ Report.countText report.checkedFiles.length).toList = none := by
    rw [String.toList_append]
    rfl
  simp only [readText, lines, verdict]
  rw [readFiles, List.filterMap_cons, noFile, List.filterMap_cons, count]
  exact congrArg Contents.clean (readFiles_lines report.checkedFiles)

theorem readText_found {report : Report} (oneLine : OneLine report) (found : report.findings ≠ []) :
    readText report.text = .found report.findings.length (report.grouped.map shown) := by
  have lines : (splitAt '\n' report.text.toList).drop 4 =
      ("❌ Found " ++ Report.countText report.findings.length ++ " style violations:").toList ::
        "".toList :: (report.grouped.flatMap Report.groupLines ++ Report.reference).map
          String.toList := by
    rw [splitAt_text oneLine, Report.textLines, Report.body, if_neg found]
    rfl
  have verdict : after? "❌ Found ".toList
      ("❌ Found " ++ Report.countText report.findings.length ++ " style violations:").toList =
      some (Nat.toDigits 10 report.findings.length ++ " style violations:".toList) := by
    rw [String.append_assoc, String.toList_append, after?_append, String.toList_append]
    simp [Report.countText]
  have total : leadingNumber (Nat.toDigits 10 report.findings.length ++
      " style violations:".toList) = report.findings.length :=
    leadingNumber_toDigits _ (by rintro c ⟨⟩; rfl)
  simp only [readText, lines, verdict, total]
  rw [readGroups, List.foldr_cons, String.toList_empty, readLine_empty]
  exact congrArg (Contents.found _) (readGroups_lines report.grouped)

/-! ## The verdict -/

theorem text_eq_append {report : Report} {verdict : String} {more : List String}
    (body : report.body = verdict :: more) :
    ∃ rest, report.text.toList =
      (Report.banner.flatMap fun line => line.toList ++ ['\n']) ++ (verdict.toList ++ rest) := by
  have newline : "\n".toList = ['\n'] := rfl
  refine ⟨(more ++ Report.reference).flatMap fun line => '\n' :: line.toList, ?_⟩
  rw [Report.text, String.toList_intercalate, newline, Report.textLines, body]
  simp [Report.banner, intercalate_cons, List.flatMap_map]

theorem text_ne_of_clean_of_found {clean found : Report} (noFindings : clean.findings = [])
    (findings : found.findings ≠ []) : clean.text ≠ found.text := by
  intro same
  obtain ⟨cleanRest, cleanText⟩ := text_eq_append
    (show clean.body = "✅ No style violations found!" :: _ by rw [Report.body, if_pos noFindings]; rfl)
  obtain ⟨foundRest, foundText⟩ := text_eq_append
    (show found.body = ("❌ Found " ++ Report.countText found.findings.length ++
      " style violations:") :: _ by rw [Report.body, if_neg findings]; rfl)
  -- Both verdicts stand behind the same banner, and their first characters differ.
  rw [same, foundText] at cleanText
  have verdicts := List.append_cancel_left cleanText
  rw [String.append_assoc, String.toList_append] at verdicts
  have heads := congrArg List.head? verdicts
  simp at heads

/-! ## The groups -/

theorem sum_count_shown {findings : List Finding} {groups : List (Kind × List Finding)}
    (grouped : Report.GroupsOf findings groups) :
    ((groups.map shown).map (·.count)).sum = findings.length := by
  rw [← grouped.sum_length, List.map_map]
  rfl

theorem entries_shown_perm {findings : List Finding} {groups : List (Kind × List Finding)}
    (grouped : Report.GroupsOf findings groups) :
    ((groups.map shown).flatMap fun group => group.entries.map fun entry => (group.kind, entry)).Perm
      (findings.map fun finding => (finding.kind, finding.entry)) := by
  have own : ∀ group ∈ groups, (shown group).entries.map (fun entry => ((shown group).kind, entry)) =
      group.2.map fun finding => (finding.kind, finding.entry) := by
    intro group isGroup
    rw [shown, List.map_map]
    refine List.map_congr_left fun finding member => ?_
    rw [grouped.members group isGroup, List.mem_filter] at member
    simp only [Function.comp_apply, of_decide_eq_true member.2]
  rw [List.flatMap_map, List.flatMap_congr own, ← List.map_flatMap]
  exact grouped.together.map _

theorem text_eq_iff_of_clean {report other : Report} (oneLine : OneLine report)
    (oneLine' : OneLine other) (clean : report.findings = []) (clean' : other.findings = []) :
    report.text = other.text ↔
      report.checkedFiles.map Path.display = other.checkedFiles.map Path.display := by
  constructor
  · intro same
    have reads := readText_clean oneLine clean
    rw [same, readText_clean oneLine' clean'] at reads
    exact (Contents.clean.inj reads).symm
  · intro same
    have listed (files : List Path) : files.map (fun file => "  - " ++ file.display) =
        (files.map Path.display).map fun shown => "  - " ++ shown := by
      rw [List.map_map]
      rfl
    have count : report.checkedFiles.length = other.checkedFiles.length := by
      simpa using congrArg List.length same
    simp only [Report.text, Report.textLines, Report.body, clean, clean', if_true, listed, same,
      count]

/-- A text report can be read back, if file names and messages stay on one line. From its text alone
one learns the number of findings and the groups, in the order of their first findings, with the
right counts and the entries of their findings; or, if there are no findings, the checked files as
they are shown. If their names are texts, then these are the files themselves, and in general two
reports without findings have the same text exactly if their files are shown alike. And no report
without findings looks like one with findings. -/
theorem readText_text (report : Report) (oneLine : OneLine report) :
    (report.findings = [] →
      readText report.text = .clean (report.checkedFiles.map Path.display) ∧
      ((∀ file ∈ report.checkedFiles, file.IsText) →
        (report.checkedFiles.map Path.display).map Path.ofText = report.checkedFiles) ∧
      ∀ other : Report, OneLine other → other.findings = [] → (report.text = other.text ↔
        report.checkedFiles.map Path.display = other.checkedFiles.map Path.display)) ∧
    (report.findings ≠ [] → ∃ groups,
      readText report.text = .found report.findings.length groups ∧
      groups.map (·.kind) = (report.findings.map (·.kind)).eraseDups ∧
      (∀ group ∈ groups, group.entries = (report.ofKind group.kind).map Finding.entry ∧
        group.count = group.entries.length) ∧
      (groups.map (·.count)).sum = report.findings.length ∧
      (groups.flatMap fun group => group.entries.map fun entry => (group.kind, entry)).Perm
        (report.findings.map fun finding => (finding.kind, finding.entry))) ∧
    ∀ other : Report, report.findings = [] → other.findings ≠ [] → report.text ≠ other.text := by
  have grouped := Report.groupsOf_grouped report
  refine ⟨fun clean => ⟨readText_clean oneLine clean, fun texts => ?_, fun other oneLine' clean' =>
    text_eq_iff_of_clean oneLine oneLine' clean clean'⟩, fun found => ?_,
    fun other => text_ne_of_clean_of_found⟩
  · rw [List.map_map]
    exact (List.map_congr_left fun file member => (texts file member).ofText_display).trans
      (List.map_id _)
  · refine ⟨report.grouped.map shown, readText_found oneLine found, ?_, ?_, sum_count_shown grouped,
      entries_shown_perm grouped⟩
    · rw [← grouped.kinds, List.map_map]
      rfl
    · intro group member
      obtain ⟨pair, isGroup, rfl⟩ := List.mem_map.mp member
      have members := grouped.members pair isGroup
      refine ⟨?_, ?_⟩
      · rw [shown, members]
        rfl
      · simp [shown]

theorem readText_text_lookalike :
    let report : Report := ⟨[⟨.header, ⟨"a.c", 3⟩, "HEADER (9 violations):"⟩,
      ⟨.fileError, ⟨"", 0⟩, ""⟩, ⟨.header, ⟨"b - c", 0⟩, "  - x"⟩], ["a.c"]⟩
    let clean : Report := ⟨[], ["größe.h", "  - x"]⟩
    OneLine report ∧ report.findings ≠ [] ∧ (∃ groups, readText report.text = .found 3 groups ∧
      groups.map (·.kind) = [.header, .fileError]) ∧
    OneLine clean ∧ clean.findings = [] ∧ (∀ file ∈ clean.checkedFiles, file.IsText) ∧
      ∃ names, readText clean.text = .clean names ∧ names.map Path.ofText = clean.checkedFiles := by
  intro report clean
  have oneLine : OneLine report := ⟨by decide, by decide, by decide⟩
  have oneLine' : OneLine clean := ⟨by decide, by decide, by decide⟩
  have found : report.findings ≠ [] := by decide
  have texts : ∀ file ∈ clean.checkedFiles, file.IsText := by decide
  obtain ⟨groups, reads, kinds, -⟩ := (readText_text report oneLine).2.1 found
  obtain ⟨reads', exactly, -⟩ := (readText_text clean oneLine').1 rfl
  exact ⟨oneLine, found, ⟨groups, reads, kinds⟩, oneLine', rfl, texts, _, reads', exactly texts⟩

theorem clean_text_not_injective :
    let report : Report := ⟨[], [⟨[0xFF, 0x2E, 0x63]⟩]⟩
    let other : Report := ⟨[], [⟨[0xFE, 0x2E, 0x63]⟩]⟩
    OneLine report ∧ OneLine other ∧ report.findings = [] ∧ other.findings = [] ∧
      report.text = other.text ∧ report.checkedFiles ≠ other.checkedFiles := by
  intro report other
  have oneLine : OneLine report := ⟨by decide, by decide, by decide⟩
  have oneLine' : OneLine other := ⟨by decide, by decide, by decide⟩
  have shownAlike : report.checkedFiles.map Path.display = other.checkedFiles.map Path.display := by
    decide
  exact ⟨oneLine, oneLine', rfl, rfl,
    (text_eq_iff_of_clean oneLine oneLine' rfl rfl).mpr shownAlike, by decide⟩

end HouseStyle.TextReport
