import HouseStyle.Source.Scan

namespace HouseStyle.Scan

/-! ## One line -/

theorem inComment_classify (scan : Scan) (line : Line) :
    (scan.classify line).2.inComment =
      (!Line.closesComment line && (scan.inComment || Line.opensComment line)) := by
  cases closes : Line.closesComment line <;> simp [classify, closes]

theorem classify_eq_code_iff (scan : Scan) (line : Line) :
    (scan.classify line).1 = .code ↔ Line.closesComment line = false ∧ scan.inComment = false ∧
      Line.opensComment line = false ∧ Line.isLineComment (Text.trim line) = false := by
  cases closes : Line.closesComment line with
  | true => simp [classify, closes]
  | false => simp [classify, closes, and_assoc]

theorem classify_frame (scan : Scan) (line : Line) :
    (scan.classify line).2 = { scan with inComment := (scan.classify line).2.inComment } := by
  rw [classify]
  split <;> rfl

/-! ## Lines one after the other -/

def afterLines (scan : Scan) (lines : List Line) : Scan :=
  lines.foldl (fun scan line => (scan.classify line).2) scan

theorem afterLines_cons (scan : Scan) (line : Line) (rest : List Line) :
    scan.afterLines (line :: rest) = (scan.classify line).2.afterLines rest := rfl

theorem afterLines_append_singleton (scan : Scan) (lines : List Line) (line : Line) :
    scan.afterLines (lines ++ [line]) = ((scan.afterLines lines).classify line).2 := by
  simp [afterLines]

theorem afterLines_frame (scan : Scan) (lines : List Line) :
    scan.afterLines lines = { scan with inComment := (scan.afterLines lines).inComment } := by
  induction lines generalizing scan with
  | nil => rfl
  | cons line rest ih => rw [afterLines_cons, ih, classify_frame]

/-! ## The code lines of a file -/

theorem codeLines_cons (scan : Scan) (index : Nat) (line : Line) (rest : List Line) :
    codeLines scan index (line :: rest) =
      (if (scan.classify line).1 = .code then [(index, line)] else []) ++
        codeLines (scan.classify line).2 (index + 1) rest := by
  rw [codeLines]
  rcases scan.classify line with ⟨kind, next⟩
  cases kind <;> simp

theorem codeLines_located (scan : Scan) (index : Nat) (lines : List Line) :
    ∀ entry ∈ codeLines scan index lines,
      ∃ offset, entry.1 = index + offset ∧ lines[offset]? = some entry.2 := by
  induction lines generalizing scan index with
  | nil => simp [codeLines]
  | cons line rest ih =>
      intro entry member
      rw [codeLines_cons, List.mem_append] at member
      rcases member with here | later
      · split at here
        · obtain rfl := List.mem_singleton.mp here
          exact ⟨0, rfl, rfl⟩
        · simp at here
      · obtain ⟨offset, place, located⟩ := ih _ _ entry later
        exact ⟨offset + 1, by omega, by simpa using located⟩

theorem codeLines_increasing (scan : Scan) (index : Nat) (lines : List Line) :
    (codeLines scan index lines).Pairwise fun first second => first.1 < second.1 := by
  induction lines generalizing scan index with
  | nil => simp [codeLines]
  | cons line rest ih =>
      rw [codeLines_cons, List.pairwise_append]
      refine ⟨?_, ih _ _, ?_⟩
      · split <;> simp
      · intro first here second later
        split at here
        · obtain rfl := List.mem_singleton.mp here
          obtain ⟨offset, place, -⟩ := codeLines_located _ _ _ second later
          simp only
          omega
        · simp at here

end HouseStyle.Scan

namespace HouseStyle

theorem getElem?_of_mem_codeLines {lines : List Line} {index : Nat} {line : Line}
    (member : (index, line) ∈ codeLines lines) : lines[index]? = some line := by
  obtain ⟨offset, place, located⟩ := Scan.codeLines_located {} 0 lines _ member
  obtain rfl : index = offset := by simpa using place
  exact located

end HouseStyle
