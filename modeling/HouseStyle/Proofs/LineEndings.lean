import HouseStyle.Analysis
import HouseStyle.Proofs.Lines

namespace HouseStyle.Text

def withReturns (text : List Char) : List Char :=
  text.flatMap fun c => if c = '\n' then ['\r', '\n'] else [c]

def terminators : List (List Char) :=
  [['\n'], ['\r', '\n']]

theorem lines_append_congr {text tail tail' : List Char} (plain : '\r' ∉ text)
    (same : lines tail = lines tail') : lines (text ++ tail) = lines (text ++ tail') := by
  induction text with
  | nil => exact same
  | cons c text ih =>
      rw [List.mem_cons, not_or] at plain
      have ih := ih plain.2
      by_cases isNewline : c = '\n'
      · subst isNewline
        rw [List.cons_append, List.cons_append, lines_newline, lines_newline, ih]
      · have notReturn := Ne.symm plain.1
        rw [List.cons_append, List.cons_append, lines_putBefore isNewline (absurd · notReturn),
          lines_putBefore isNewline (absurd · notReturn), ih]

theorem lines_withReturns_append {text : List Char} (plain : '\r' ∉ text) (tail : List Char) :
    lines (withReturns text ++ tail) = lines (text ++ tail) := by
  induction text with
  | nil => rfl
  | cons c text ih =>
      rw [List.mem_cons, not_or] at plain
      have ih := ih plain.2
      by_cases isNewline : c = '\n'
      · subst isNewline
        change lines ('\r' :: '\n' :: (withReturns text ++ tail)) = lines ('\n' :: (text ++ tail))
        rw [lines_return, lines_newline, ih]
      · have first : withReturns (c :: text) = c :: withReturns text := by
          simp [withReturns, isNewline]
        have notReturn := Ne.symm plain.1
        rw [first, List.cons_append, List.cons_append,
          lines_putBefore isNewline (absurd · notReturn),
          lines_putBefore isNewline (absurd · notReturn), ih]

theorem lines_append_terminator {text terminator : List Char} (plain : '\r' ∉ text)
    (nonempty : text ≠ []) (unfinished : text.getLast? ≠ some '\n')
    (isTerminator : terminator ∈ terminators) : lines (text ++ terminator) = lines text := by
  obtain ⟨front, last, rfl⟩ := (List.eq_nil_or_concat text).resolve_left nonempty
  rw [List.concat_eq_append] at plain unfinished ⊢
  rw [List.mem_append, List.mem_singleton, not_or] at plain
  have notReturn := Ne.symm plain.2
  have notNewline : last ≠ '\n' := by simpa using unfinished
  -- The terminator ends the line of the last character, which is a line without it as well.
  have ended : lines terminator = [[]] := by
    rcases List.mem_pair.mp isTerminator with rfl | rfl <;> rfl
  have same : lines (last :: terminator) = lines [last] := by
    rw [lines_putBefore notNewline (absurd · notReturn),
      lines_putBefore notNewline (absurd · notReturn), ended]
    rfl
  rw [List.append_assoc]
  exact lines_append_congr plain.1 same

end HouseStyle.Text

namespace HouseStyle.Analyzer
open Text

/-- Line endings do not matter to an analysis. For a text without carriage returns it finds the same
if all line feeds get one; and if the text does not end in a line feed, then also if a terminator of
either sort is put at the end of the text or of the text with carriage returns. -/
theorem analyzeSource_lineEndings (analyzer : Analyzer) (path : Path) (text : List Char)
    (plain : '\r' ∉ text) :
    let findings (text : List Char) := analyzer.analyzeSource (.ofText path text)
    findings (withReturns text) = findings text ∧
    (text ≠ [] → text.getLast? ≠ some '\n' → ∀ terminator ∈ terminators,
      findings (text ++ terminator) = findings text ∧
      findings (withReturns text ++ terminator) = findings text) := by
  intro findings
  have by_lines {other : List Char} (same : lines other = lines text) :
      findings other = findings text := by
    simp only [findings, Source.ofText, same]
  constructor
  · apply by_lines
    simpa using lines_withReturns_append plain []
  · intro nonempty unfinished terminator isTerminator
    have same := lines_append_terminator plain nonempty unfinished isTerminator
    exact ⟨by_lines same, by_lines ((lines_withReturns_append plain terminator).trans same)⟩

theorem analyzeSource_lineEndings_indented :
    let analyzer : Analyzer := ⟨[.indentation], {}⟩
    let findings (text : String) := analyzer.analyzeSource (.ofText "a.c" text.toList)
    findings "  a\n   b" ≠ [] ∧ findings "  a\r\n   b" = findings "  a\n   b" ∧
      findings "  a\n   b\r\n" = findings "  a\n   b" ∧
      findings "  a\r\n   b\n" = findings "  a\n   b" := by
  intro analyzer findings
  obtain ⟨returns, ended⟩ :=
    analyzeSource_lineEndings analyzer "a.c" "  a\n   b".toList (by decide)
  have ended := ended (by decide) (by decide)
  exact ⟨by decide +kernel, returns, (ended _ (by decide)).1, (ended _ (by decide)).2⟩

end HouseStyle.Analyzer
