import HouseStyle.Proofs.Text
import HouseStyle.Text.Lines

namespace HouseStyle.Text

/-! ## Along a text -/

theorem lines_newline (rest : List Char) : lines ('\n' :: rest) = [] :: lines rest := rfl

theorem lines_return (rest : List Char) : lines ('\r' :: '\n' :: rest) = [] :: lines rest := rfl

def putBefore (c : Char) : List (List Char) → List (List Char)
  | [] => [[c]]
  | line :: more => (c :: line) :: more

theorem lines_putBefore {c : Char} {rest : List Char} (notNewline : c ≠ '\n')
    (notReturn : c = '\r' → rest.head? ≠ some '\n') :
    lines (c :: rest) = putBefore c (lines rest) := by
  rw [lines]
  · cases lines rest <;> rfl
  · rintro more isReturn rfl
    exact notReturn isReturn rfl
  · exact notNewline

/-! ## Pieces and lines -/

def dropReturn : List Char → List Char
  | [] => []
  | ['\r'] => []
  | c :: rest => c :: dropReturn rest

theorem lines_append_newline {piece : List Char} (none : '\n' ∉ piece) (rest : List Char) :
    lines (piece ++ '\n' :: rest) = dropReturn piece :: lines rest := by
  fun_induction dropReturn piece with
  | case1 => simp [lines]
  | case2 => simp [lines]
  | case3 c piece notReturn ih =>
      rw [List.mem_cons, not_or] at none
      rw [List.cons_append, lines, ih none.2]
      · -- A carriage return is dropped only if nothing else stands before the line feed.
        intro more isReturn same
        cases piece with
        | nil => exact notReturn isReturn rfl
        | cons first piece => exact none.2 (by simp [(List.cons.inj same).1])
      · exact Ne.symm none.1

theorem lines_of_notMem {text : List Char} (none : '\n' ∉ text) (nonempty : text ≠ []) :
    lines text = [text] := by
  fun_induction lines text with
  | case1 => contradiction
  | case2 => simp at none
  | case3 => simp at none
  | case4 c rest _ _ noLines ih =>
      rw [List.mem_cons, not_or] at none
      cases rest with
      | nil => rfl
      | cons next rest => rw [ih none.2 (by simp)] at noLines; contradiction
  | case5 c rest _ _ line more isLines ih =>
      rw [List.mem_cons, not_or] at none
      cases rest with
      | nil => simp [lines] at isLines
      | cons next rest =>
          rw [ih none.2 (by simp), List.cons.injEq] at isLines
          rw [← isLines.1, ← isLines.2]

theorem length_lines_intercalate {pieces : List (List Char)}
    (none : ∀ piece ∈ pieces, '\n' ∉ piece) (nonempty : ∀ piece ∈ pieces, piece ≠ []) :
    (lines (['\n'].intercalate pieces)).length = pieces.length := by
  induction pieces with
  | nil => rfl
  | cons piece pieces ih =>
      have ih := ih (fun other member => none other (List.mem_cons_of_mem _ member))
        fun other member => nonempty other (List.mem_cons_of_mem _ member)
      cases pieces with
      | nil => simp [lines_of_notMem (none piece (by simp)) (nonempty piece (by simp))]
      | cons next pieces =>
          rw [List.intercalate_cons_cons, List.append_assoc, List.singleton_append,
            lines_append_newline (none piece (by simp)), List.length_cons, ih]
          rfl

theorem lines_eq_nil_iff {text : List Char} : lines text = [] ↔ text = [] := by
  fun_cases lines text <;> simp_all

theorem notMem_of_mem_lines {text line : List Char} (member : line ∈ lines text) : '\n' ∉ line := by
  fun_induction lines text generalizing line with
  | case1 => simp at member
  | case2 rest ih | case3 rest ih =>
      rcases List.mem_cons.mp member with rfl | later
      · simp
      · exact ih later
  | case4 c rest _ notNewline noLines ih =>
      obtain rfl := List.mem_singleton.mp member
      simpa using Ne.symm notNewline
  | case5 c rest _ notNewline first more isLines ih =>
      rw [isLines] at ih
      rcases List.mem_cons.mp member with rfl | later
      · rw [List.mem_cons, not_or]
        exact ⟨Ne.symm notNewline, ih (by simp)⟩
      · exact ih (List.mem_cons_of_mem _ later)

theorem exists_mem_lines {text : List Char} {c : Char} (member : c ∈ text) (notNewline : c ≠ '\n')
    (notReturn : c ≠ '\r') : ∃ line ∈ lines text, c ∈ line := by
  fun_induction lines text with
  | case1 => simp at member
  | case2 rest ih =>
      obtain ⟨line, isLine, inLine⟩ := ih (by simpa [notNewline, notReturn] using member)
      exact ⟨line, List.mem_cons_of_mem _ isLine, inLine⟩
  | case3 rest ih =>
      obtain ⟨line, isLine, inLine⟩ := ih (by simpa [notNewline] using member)
      exact ⟨line, List.mem_cons_of_mem _ isLine, inLine⟩
  | case4 first rest _ _ noLines ih =>
      obtain rfl : rest = [] := lines_eq_nil_iff.mp noLines
      exact ⟨[first], by simp, member⟩
  | case5 first rest _ _ line more isLines ih =>
      rcases List.mem_cons.mp member with rfl | inRest
      · exact ⟨c :: line, by simp, by simp⟩
      · obtain ⟨other, isLine, inLine⟩ := ih inRest
        rw [isLines] at isLine
        rcases List.mem_cons.mp isLine with rfl | later
        · exact ⟨first :: other, by simp, List.mem_cons_of_mem _ inLine⟩
        · exact ⟨other, List.mem_cons_of_mem _ later, inLine⟩

end HouseStyle.Text
