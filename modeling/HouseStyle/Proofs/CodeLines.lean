import HouseStyle.Proofs.CommentTracking

namespace HouseStyle

/-! ## The code lines of two parts -/

namespace Scan

theorem codeLines_append (scan : Scan) (index : Nat) (lines more : List Line) :
    codeLines scan index (lines ++ more) = codeLines scan index lines ++
      codeLines (scan.afterLines lines) (index + lines.length) more := by
  induction lines generalizing scan index with
  | nil => simp [codeLines, afterLines]
  | cons line lines ih =>
      rw [List.cons_append, codeLines_cons, codeLines_cons, ih, afterLines_cons, List.length_cons,
        List.append_assoc, Nat.add_assoc, Nat.add_comm 1]

theorem codeLines_shift (scan : Scan) (index : Nat) (lines : List Line) :
    codeLines scan index lines =
      (codeLines scan 0 lines).map fun entry => (index + entry.1, entry.2) := by
  suffices shift : ∀ (lines : List Line) (scan : Scan) (start : Nat),
      codeLines scan (index + start) lines =
        (codeLines scan start lines).map fun entry => (index + entry.1, entry.2) from
    shift lines scan 0
  intro lines
  induction lines with
  | nil => simp [codeLines]
  | cons line lines ih =>
      intro scan start
      rw [codeLines_cons, codeLines_cons, List.map_append, ← ih, Nat.add_assoc]
      split <;> rfl

end Scan

namespace CommentTracking

theorem codeLines_append (lines more : List Line) : codeLines (lines ++ more) =
    codeLines lines ++ Scan.codeLines (Scan.afterLines {} lines) lines.length more := by
  simpa [codeLines] using Scan.codeLines_append {} 0 lines more

theorem mem_codeLines_append_cons {before after : List Line} {line : Line} :
    (before.length, line) ∈ codeLines (before ++ line :: after) ↔
      ((Scan.afterLines {} before).classify line).1 = .code := by
  have notBefore : (before.length, line) ∉ codeLines before := fun member => by
    have located := getElem?_of_mem_codeLines member
    simp at located
  have notAfter (scan : Scan) : (before.length, line) ∉ scan.codeLines (before.length + 1) after :=
    fun member => by
      obtain ⟨offset, place, -⟩ := Scan.codeLines_located _ _ _ _ member
      simp only at place
      omega
  rw [codeLines_append, Scan.codeLines_cons, List.mem_append, List.mem_append]
  split <;> simp_all

theorem mem_codeLines_iff {lines : List Line} {index : Nat} {line : Line} :
    (index, line) ∈ codeLines lines ↔
      lines[index]? = some line ∧
        ((Scan.afterLines {} (lines.take index)).classify line).1 = .code := by
  have onlyIf : (index, line) ∈ codeLines lines → lines[index]? = some line :=
    getElem?_of_mem_codeLines
  rw [← and_iff_right_of_imp onlyIf]
  refine and_congr_right fun located => ?_
  obtain ⟨inside, isLine⟩ := List.getElem?_eq_some_iff.mp located
  have parts : lines.take index ++ line :: lines.drop (index + 1) = lines := by
    rw [← isLine, ← List.drop_eq_getElem_cons inside, List.take_append_drop]
  have code : ((lines.take index).length, line) ∈
      codeLines (lines.take index ++ line :: lines.drop (index + 1)) ↔ _ :=
    mem_codeLines_append_cons
  rwa [parts, List.length_take_of_le inside.le] at code

/-! ## The flag -/

/-- The line `start` opens a comment, and no line from there on and before `stop` closes one. -/
def StaysOpen (lines : List Line) (start stop : Nat) : Prop :=
  (∃ line, lines[start]? = some line ∧ opening <:+: line) ∧
  ∀ place line, start ≤ place → place < stop → lines[place]? = some line → ¬ closing <:+: line

theorem exists_staysOpen_succ {lines : List Line} {stop : Nat} {line : Line}
    (located : lines[stop]? = some line) :
    (∃ start < stop + 1, StaysOpen lines start (stop + 1)) ↔
      ¬ closing <:+: line ∧ ((∃ start < stop, StaysOpen lines start stop) ∨ opening <:+: line) := by
  have last {place : Nat} {other : Line} (isLine : lines[place]? = some other) (isLast : place = stop) :
      other = line := by
    rw [isLast, located] at isLine
    exact (Option.some.inj isLine).symm
  constructor
  · rintro ⟨start, early, ⟨opener, isOpener, opens⟩, unclosed⟩
    refine ⟨unclosed stop line (by omega) (by omega) located, ?_⟩
    rcases Nat.lt_succ_iff_lt_or_eq.mp early with before | here
    · exact .inl ⟨start, before, ⟨opener, isOpener, opens⟩,
        fun place other after early => unclosed place other after (by omega)⟩
    · exact .inr (last isOpener here ▸ opens)
  · rintro ⟨notClosed, ⟨start, before, opened, unclosed⟩ | opens⟩
    · refine ⟨start, by omega, opened, fun place other after early isLine => ?_⟩
      rcases Nat.lt_succ_iff_lt_or_eq.mp early with earlier | here
      · exact unclosed place other after earlier isLine
      · exact last isLine here ▸ notClosed
    · refine ⟨stop, by omega, ⟨line, located, opens⟩, fun place other after early isLine => ?_⟩
      exact last isLine (by omega) ▸ notClosed

theorem inComment_classify_iff (scan : Scan) (line : Line) :
    (scan.classify line).2.inComment = true ↔
      ¬ closing <:+: line ∧ (scan.inComment = true ∨ opening <:+: line) := by
  rw [Scan.inComment_classify, Bool.and_eq_true, Bool.or_eq_true, Bool.not_eq_true',
    ← closesComment_iff, ← opensComment_iff, Bool.not_eq_true]

/-- After some lines a comment is open exactly if one of them opens it and none from there on closes
it. -/
theorem inComment_afterLines_take {lines : List Line} {stop : Nat} (inside : stop ≤ lines.length) :
    (Scan.afterLines {} (lines.take stop)).inComment = true ↔
      ∃ start < stop, StaysOpen lines start stop := by
  induction stop with
  | zero => simp [Scan.afterLines]
  | succ stop ih =>
      have located : lines[stop]? = some lines[stop] := List.getElem?_eq_getElem inside
      rw [List.take_add_one, located, Option.toList_some, Scan.afterLines_append_singleton,
        inComment_classify_iff, ih (by omega), exists_staysOpen_succ located]

theorem classify_eq_code_iff_flag (scan : Scan) (line : Line) :
    (scan.classify line).1 = .code ↔ ¬ closing <:+: line ∧ ¬ ['/', '/'] <+: Text.trim line ∧
      ¬ (scan.classify line).2.inComment = true := by
  rw [Scan.classify_eq_code_iff, inComment_classify_iff, ← closesComment_iff, ← opensComment_iff,
    ← List.isPrefixOf_iff_prefix]
  change _ ↔ _ ∧ ¬ Line.isLineComment (Text.trim line) = true ∧ _
  grind

/-! ## The closed form -/

/-- The code lines come in the order of the file, and they are the lines that close no comment, do not
start with two slashes, and do not stand in a comment that was opened on the same line or above and
not closed since. A file in two parts has the code lines of the first and then those of the second,
scanned from where the first ends. -/
theorem codeLines_closedForm (lines : List Line) :
    (codeLines lines).Pairwise (fun first second => first.1 < second.1) ∧
    (∀ index line, (index, line) ∈ codeLines lines ↔
      lines[index]? = some line ∧ ¬ closing <:+: line ∧ ¬ ['/', '/'] <+: Text.trim line ∧
        ¬ ∃ start ≤ index, StaysOpen lines start (index + 1)) ∧
    (∀ more, codeLines (lines ++ more) = codeLines lines ++
      (Scan.codeLines (Scan.afterLines {} lines) 0 more).map fun entry =>
        (lines.length + entry.1, entry.2)) ∧
    ((Scan.afterLines {} lines).inComment = true ↔
      ∃ start < lines.length, StaysOpen lines start lines.length) := by
  refine ⟨Scan.codeLines_increasing {} 0 lines, fun index line => ?_, fun more => ?_, ?_⟩
  · rw [mem_codeLines_iff]
    refine and_congr_right fun located => ?_
    obtain ⟨inside, -⟩ := List.getElem?_eq_some_iff.mp located
    have flag := inComment_afterLines_take (show index + 1 ≤ lines.length from inside)
    rw [List.take_add_one, located, Option.toList_some, Scan.afterLines_append_singleton] at flag
    rw [classify_eq_code_iff_flag, flag]
    simp only [Nat.lt_succ_iff]
  · rw [codeLines_append, Scan.codeLines_shift]
  · rw [← inComment_afterLines_take (Nat.le_refl lines.length), List.take_length]

end CommentTracking

end HouseStyle
