import HouseStyle.Proofs.Lines
import HouseStyle.Proofs.TextReport

namespace HouseStyle.CompactReport
open Text TextReport

/-! ## The reader -/

def readFinding? (line : List Char) : Option Finding :=
  let file := line.takeWhile (· ≠ ':')
  let place := (line.dropWhile (· ≠ ':')).drop 1
  let labelled := (place.dropWhile Char.isDigit).dropWhile fun c => c = ':' || c = ' '
  let label := labelled.takeWhile (· ≠ ':')
  let message := (labelled.dropWhile (· ≠ ':')).drop 2
  (Kind.ofLabel? (String.ofList label)).map fun kind =>
    ⟨kind, ⟨String.ofList file, leadingNumber place⟩, String.ofList message⟩

def readCompact (text : String) : List Finding :=
  (splitAt '\n' text.toList).filterMap readFinding?

/-! ## One finding -/

/-- The file name has no colon, and neither it nor the message has a line feed. -/
structure Plain (finding : Finding) : Prop where
  file_colon : 0x3A ∉ finding.location.file.bytes
  file_newline : 0x0A ∉ finding.location.file.bytes
  message_newline : '\n' ∉ finding.message.toList

def asShown (finding : Finding) : Finding :=
  { finding with location := ⟨finding.location.file.display, finding.location.line⟩ }

theorem asShown_of_isText {finding : Finding} (isText : finding.location.file.IsText) :
    asShown finding = finding := by
  rw [asShown, isText.ofText_display]

def numeral (line : Nat) : List Char :=
  if line = 0 then [] else Nat.toDigits 10 line

def separator (line : Nat) : List Char :=
  if line = 0 then [' '] else [':', ' ']

theorem compact_toList (finding : Finding) :
    finding.compact.toList = finding.location.file.display.toList ++ ':' ::
      (numeral finding.location.line ++ (separator finding.location.line ++
        (finding.kind.label.toList ++ ':' :: ' ' :: finding.message.toList))) := by
  rw [Finding.compact, Location.text, Location.hasLine]
  cases finding.location.line with
  | zero => simp [numeral, separator]
  | succ line => simp [numeral, separator]

theorem numeral_digits (line : Nat) : ∀ c ∈ numeral line, c.isDigit = true := by
  rw [numeral]
  split
  · simp
  · exact fun c => Nat.isDigit_of_mem_toDigits (by decide) (by decide)

theorem leadingNumber_numeral (line : Nat) {rest : List Char}
    (stop : ∀ c ∈ rest.head?, c.isDigit = false) : leadingNumber (numeral line ++ rest) = line := by
  rw [numeral]
  split
  · rename_i zero
    rw [List.nil_append, leadingNumber, takeWhile_stopped stop, zero]
    rfl
  · exact leadingNumber_toDigits line stop

theorem separator_stops (line : Nat) (rest : List Char) :
    ∀ c ∈ (separator line ++ rest).head?, c.isDigit = false := by
  rw [separator]
  split <;> (rintro c ⟨⟩; decide)

theorem separator_inside (line : Nat) :
    ∀ c ∈ separator line, (decide (c = ':') || decide (c = ' ')) = true := by
  rw [separator]
  split <;> simp

theorem label_stops (kind : Kind) (rest : List Char) :
    ∀ c ∈ (kind.label.toList ++ rest).head?, (decide (c = ':') || decide (c = ' ')) = false := by
  cases kind <;> (rintro c ⟨⟩; decide)

theorem label_inside (kind : Kind) : ∀ c ∈ kind.label.toList, decide (c ≠ ':') = true := by
  cases kind <;> simp [Kind.label]

theorem colon_stops (rest : List Char) : ∀ c ∈ (':' :: rest).head?, decide (c ≠ ':') = false := by
  simp

theorem readFinding?_compact {finding : Finding} (plain : Plain finding) :
    readFinding? finding.compact.toList = some (asShown finding) := by
  have noColon : ':' ∉ finding.location.file.display.toList :=
    Path.notMem_display (by decide) plain.file_colon
  have inside : ∀ c ∈ finding.location.file.display.toList, decide (c ≠ ':') = true := by
    intro c member
    refine decide_eq_true fun same => noColon ?_
    rwa [← same]
  have digits := numeral_digits finding.location.line
  have stop := separator_stops finding.location.line
  have label := label_inside finding.kind
  simp only [readFinding?, compact_toList, takeWhile_run inside (colon_stops _),
    dropWhile_run inside (colon_stops _), List.drop_succ_cons, List.drop_zero,
    leadingNumber_numeral _ (stop _), dropWhile_run digits (stop _),
    dropWhile_run (separator_inside _) (label_stops _ _), takeWhile_run label (colon_stops _),
    dropWhile_run label (colon_stops _), String.ofList_toList, Kind.ofLabel?_label, Option.map_some,
    asShown]

theorem compact_ne_empty (finding : Finding) : finding.compact ≠ "" := by
  intro same
  have chars := compact_toList finding
  simp [same] at chars

theorem compact_oneLine {finding : Finding} (plain : Plain finding) :
    '\n' ∉ finding.compact.toList := by
  have label : '\n' ∉ finding.kind.label.toList := fun member =>
    (finding.kind.label_chars _ member).2 rfl
  have place := Location.text_oneLine plain.file_newline
  simp [Finding.compact, place, label, plain.message_newline]

/-! ## All findings -/

theorem compact_toList_eq (report : Report) :
    report.compact.toList = ['\n'].intercalate (report.findings.map (·.compact.toList)) := by
  have newline : "\n".toList = ['\n'] := rfl
  rw [Report.compact, String.toList_intercalate, newline, List.map_map]
  rfl

theorem compact_eq_empty_iff (report : Report) : report.compact = "" ↔ report.findings = [] := by
  rw [← String.toList_eq_nil_iff, compact_toList_eq]
  cases report.findings with
  | nil => simp
  | cons finding findings => simp [intercalate_cons, compact_ne_empty]

variable {report : Report} (plain : ∀ finding ∈ report.findings, Plain finding)
include plain

theorem pieces_oneLine : ∀ piece ∈ report.findings.map (·.compact.toList), '\n' ∉ piece := by
  intro piece member
  obtain ⟨finding, isFinding, rfl⟩ := List.mem_map.mp member
  exact compact_oneLine (plain finding isFinding)

theorem splitAt_compact (found : report.findings ≠ []) :
    splitAt '\n' report.compact.toList = report.findings.map (·.compact.toList) := by
  rw [compact_toList_eq]
  exact splitAt_intercalate (by simpa using found) (pieces_oneLine plain)

theorem length_lines_compact : (lines report.compact.toList).length = report.findings.length := by
  rw [compact_toList_eq, length_lines_intercalate (pieces_oneLine plain), List.length_map]
  simp [compact_ne_empty]

theorem readCompact_of_plain : readCompact report.compact = report.findings.map asShown := by
  by_cases none : report.findings = []
  · rw [(compact_eq_empty_iff report).mpr none, none]
    decide
  · calc readCompact report.compact
      _ = report.findings.filterMap (readFinding? ∘ (·.compact.toList)) := by
        rw [readCompact, splitAt_compact plain none, List.filterMap_map]
      _ = report.findings.filterMap (some ∘ asShown) := by
        apply List.filterMap_congr
        intro finding member
        rw [Function.comp_apply, readFinding?_compact (plain finding member), Function.comp_apply]
      _ = report.findings.map asShown := by rw [List.filterMap_eq_map]

omit plain

theorem compact_asShown (finding : Finding) : (asShown finding).compact = finding.compact := by
  simp only [Finding.compact, Location.text, asShown, Path.display_ofText]
  rfl

theorem compact_eq_of_asShown {report other : Report}
    (same : report.findings.map asShown = other.findings.map asShown) :
    report.compact = other.compact := by
  have shown (findings : List Finding) :
      findings.map Finding.compact = (findings.map asShown).map Finding.compact := by
    rw [List.map_map]
    exact List.map_congr_left fun finding _ => (compact_asShown finding).symm
  rw [Report.compact, Report.compact, shown, same, ← shown]

/-- A compact report can be read back, if file names have no colon and file names and messages stay
on one line: its text gives the findings, all of them and in order, with their files as they are
shown. If the file names are texts, then these are the findings themselves, and in general two reports
have the same text exactly if their findings are shown alike. There is one line for each finding, and
only a report without findings has an empty text. -/
theorem readCompact_compact (report : Report) (plain : ∀ finding ∈ report.findings, Plain finding) :
    readCompact report.compact = report.findings.map asShown ∧
    ((∀ finding ∈ report.findings, finding.location.file.IsText) →
      readCompact report.compact = report.findings) ∧
    (∀ other : Report, (∀ finding ∈ other.findings, Plain finding) →
      (report.compact = other.compact ↔
        report.findings.map asShown = other.findings.map asShown)) ∧
    (report.findings ≠ [] →
      splitAt '\n' report.compact.toList = report.findings.map (·.compact.toList)) ∧
    (lines report.compact.toList).length = report.findings.length ∧
    (report.compact = "" ↔ report.findings = []) := by
  refine ⟨readCompact_of_plain plain, fun texts => ?_, fun other otherPlain => ⟨fun same => ?_,
    compact_eq_of_asShown⟩, splitAt_compact plain, length_lines_compact plain,
    compact_eq_empty_iff report⟩
  · rw [readCompact_of_plain plain]
    exact (List.map_congr_left fun finding member => asShown_of_isText (texts finding member)).trans
      (List.map_id _)
  · rw [← readCompact_of_plain plain, same, readCompact_of_plain otherPlain]

theorem readCompact_compact_lookalike :
    let report : Report := ⟨[⟨.header, ⟨"a.c", 3⟩, "7: HEADER: x"⟩, ⟨.compilation, ⟨"12", 0⟩, "\r"⟩,
      ⟨.fileError, ⟨"", 0⟩, ""⟩], []⟩
    (∀ finding ∈ report.findings, Plain finding) ∧
    (∀ finding ∈ report.findings, finding.location.file.IsText) ∧
    report.compact = "a.c:3: HEADER: 7: HEADER: x\n12: COMPILATION: \r\n: FILE_ERROR: " ∧
    readCompact report.compact = report.findings := by
  intro report
  have plain : ∀ finding ∈ report.findings, Plain finding := by
    simp only [report, List.mem_cons, List.not_mem_nil, or_false]
    rintro finding (rfl | rfl | rfl) <;> exact ⟨by decide, by decide, by decide⟩
  have texts : ∀ finding ∈ report.findings, finding.location.file.IsText := by decide
  exact ⟨plain, texts, by decide, (readCompact_compact report plain).2.1 texts⟩

theorem compact_not_injective :
    let report : Report := ⟨[⟨.header, ⟨⟨[0xFF, 0x2E, 0x63]⟩, 1⟩, "x"⟩], []⟩
    let other : Report := ⟨[⟨.header, ⟨⟨[0xFE, 0x2E, 0x63]⟩, 1⟩, "x"⟩], []⟩
    (∀ finding ∈ report.findings ++ other.findings, Plain finding) ∧
      report.compact = other.compact ∧ report.findings ≠ other.findings := by
  intro report other
  have plain : ∀ finding ∈ report.findings ++ other.findings, Plain finding := by
    simp only [report, other, List.cons_append, List.nil_append, List.mem_cons, List.not_mem_nil,
      or_false]
    rintro finding (rfl | rfl) <;> exact ⟨by decide, by decide, by decide⟩
  exact ⟨plain, compact_eq_of_asShown (by decide), by decide⟩

end HouseStyle.CompactReport
