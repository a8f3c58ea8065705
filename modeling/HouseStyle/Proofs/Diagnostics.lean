import HouseStyle.Proofs.Compilation
import HouseStyle.Proofs.LineEndings
import Mathlib.Data.List.ModifyLast

namespace HouseStyle.Text

/-! ## The lines of a text with another in front -/

theorem lines_return_newline {rest : List Char} (next : rest.head? = some '\n') :
    lines ('\r' :: rest) = lines rest := by
  obtain ⟨more, rfl⟩ := List.head?_eq_some_iff.mp next
  rfl

/-- What stands in front of a character that is no line feed is taken apart in one way, whatever
follows: into whole lines and the start of the line of that character. -/
theorem exists_lines_before (front : List Char) : ∃ whole start,
    (∀ line ∈ start :: whole, ∀ x ∈ line, x ∈ front) ∧
    ∀ c rest first more, c ≠ '\n' → lines (c :: rest) = first :: more →
      lines (front ++ c :: rest) = whole ++ (start ++ first) :: more := by
  induction front with
  | nil => exact ⟨[], [], by simp, fun c rest first more _ isLines => isLines⟩
  | cons x front ih =>
      obtain ⟨whole, start, members, ih⟩ := ih
      have members' : ∀ line ∈ start :: whole, ∀ y ∈ line, y ∈ x :: front :=
        fun line isLine y inLine => List.mem_cons_of_mem _ (members line isLine y inLine)
      by_cases isNewline : x = '\n'
      · subst isNewline
        refine ⟨[] :: whole, start, ?_, fun c rest first more notNewline isLines => ?_⟩
        · simpa using members'
        · rw [List.cons_append, lines_newline, ih c rest first more notNewline isLines]
          rfl
      · by_cases terminates : x = '\r' ∧ front.head? = some '\n'
        · -- The carriage return belongs to the line feed after it.
          obtain ⟨rfl, next⟩ := terminates
          refine ⟨whole, start, members', fun c rest first more notNewline isLines => ?_⟩
          rw [List.cons_append, lines_return_newline, ih c rest first more notNewline isLines]
          rw [List.head?_append, next]
          rfl
        · have step (c : Char) (rest : List Char) (notNewline : c ≠ '\n') :
              lines (x :: (front ++ c :: rest)) = putBefore x (lines (front ++ c :: rest)) := by
            refine lines_putBefore isNewline fun isReturn next => terminates ⟨isReturn, ?_⟩
            cases front with
            | nil => exact absurd (Option.some.inj next) notNewline
            | cons y front => exact next
          cases whole with
          | nil =>
              refine ⟨[], x :: start, ?_, fun c rest first more notNewline isLines => ?_⟩
              · simpa using members'
              · rw [List.cons_append, step c rest notNewline,
                  ih c rest first more notNewline isLines]
                rfl
          | cons line whole =>
              refine ⟨(x :: line) :: whole, start, ?_,
                fun c rest first more notNewline isLines => ?_⟩
              · simpa using members'
              · rw [List.cons_append, step c rest notNewline,
                  ih c rest first more notNewline isLines]
                rfl

theorem mem_of_mem_lines {text line : List Char} (isLine : line ∈ lines text) {c : Char}
    (inLine : c ∈ line) : c ∈ text := by
  fun_induction lines text generalizing line with
  | case1 => simp at isLine
  | case2 rest ih | case3 rest ih => grind
  | case4 x rest _ _ noLines ih => grind
  | case5 x rest _ _ first more isLines ih => grind

theorem exists_lines_cons {c : Char} (notBlank : isBlank c = false) (rest : List Char) :
    ∃ first more, lines (c :: rest) = (c :: first) :: more ∧
      ∀ line ∈ first :: more, ∀ x ∈ line, x ∈ rest := by
  have notReturn : c ≠ '\r' := by rintro rfl; contradiction
  have notNewline : c ≠ '\n' := by rintro rfl; contradiction
  rw [lines_putBefore notNewline (absurd · notReturn)]
  cases isLines : lines rest with
  | nil => exact ⟨[], [], rfl, by simp⟩
  | cons first more =>
      refine ⟨first, more, rfl, fun line isLine x inLine => mem_of_mem_lines ?_ inLine⟩
      rwa [isLines]

/-! ## Trimming and the lines that are not blank -/

def solidLines (text : List Char) : List Line :=
  (lines text).filter fun line => !Line.isBlank line

theorem blank_or_first (text : List Char) : (∀ c ∈ text, isBlank c = true) ∨
    ∃ blanks c rest, (∀ x ∈ blanks, isBlank x = true) ∧ isBlank c = false ∧
      text = blanks ++ c :: rest ∧ trimStart text = c :: rest := by
  cases start : trimStart text with
  | nil => exact .inl (trimStart_eq_nil_iff.mp start)
  | cons c rest =>
      refine .inr ⟨text.takeWhile isBlank, c, rest, fun x => List.mem_takeWhile_imp, ?_, ?_, rfl⟩
      · exact dropWhile_stops isBlank text c (by rw [← trimStart, start]; rfl)
      · rw [← start, trimStart, List.takeWhile_append_dropWhile]

theorem blank_or_last (text : List Char) : (∀ c ∈ text, isBlank c = true) ∨
    ∃ front c blanks, (∀ x ∈ blanks, isBlank x = true) ∧ isBlank c = false ∧
      text = front ++ c :: blanks ∧ trimEnd text = front ++ [c] := by
  rcases blank_or_first text.reverse with blank | ⟨blanks, c, rest, blank, notBlank, parts, trimmed⟩
  · exact .inl (by simpa using blank)
  · refine .inr ⟨rest.reverse, c, blanks.reverse, by simpa using blank, notBlank, ?_, ?_⟩
    · rw [← text.reverse_reverse, parts]
      simp
    · rw [trimEnd, ← trimStart, trimmed, List.reverse_cons]

variable {blanks : List Char} (blank : ∀ x ∈ blanks, isBlank x = true) {c : Char}
  (notBlank : isBlank c = false)

include blank notBlank in
theorem trimStart_blanks_append (rest : List Char) :
    trimStart (blanks ++ c :: rest) = c :: rest :=
  dropWhile_run blank (by simpa using notBlank)

include blank notBlank in
theorem trimEnd_append_blanks (front : List Char) :
    trimEnd (front ++ c :: blanks) = front ++ [c] := by
  have dropped : (blanks.reverse ++ c :: front.reverse).dropWhile isBlank = c :: front.reverse :=
    dropWhile_run (by simpa using blank) (by simpa using notBlank)
  simp [trimEnd, dropped]

include notBlank in
theorem filter_solid_cons {line : Line} (member : c ∈ line) (more : List Line) :
    ((line :: more).filter fun line => !Line.isBlank line) =
      line :: more.filter fun line => !Line.isBlank line := by
  refine List.filter_cons_of_pos ?_
  rw [Bool.not_eq_true', ← Bool.not_eq_true, DefinitionGrammar.isBlank_line_iff]
  exact fun blank => notMem_blanks blank notBlank member

theorem filter_blank_lines {lines : List Line}
    (blank : ∀ line ∈ lines, ∀ c ∈ line, isBlank c = true) :
    (lines.filter fun line => !Line.isBlank line) = [] := by
  rw [List.filter_eq_nil_iff]
  intro line member
  simp [(DefinitionGrammar.isBlank_line_iff line).mpr (blank line member)]

theorem solidLines_of_blank {text : List Char} (blank : ∀ c ∈ text, isBlank c = true) :
    solidLines text = [] :=
  filter_blank_lines fun _ isLine c inLine => blank c (mem_of_mem_lines isLine inLine)

theorem solidLines_trimStart (text : List Char) :
    solidLines (trimStart text) = (solidLines text).modifyHead trimStart := by
  rcases blank_or_first text with blank | ⟨blanks, c, rest, blank, notBlank, parts, trimmed⟩
  · rw [solidLines_of_blank blank, trimStart_eq_nil_iff.mpr blank]
    rfl
  · obtain ⟨first, more, isLines, -⟩ := exists_lines_cons notBlank rest
    obtain ⟨whole, start, members, before⟩ := exists_lines_before blanks
    have notNewline : c ≠ '\n' := by rintro rfl; contradiction
    have blankBefore : ∀ line ∈ start :: whole, ∀ x ∈ line, isBlank x = true :=
      fun line isLine x inLine => blank x (members line isLine x inLine)
    rw [List.forall_mem_cons] at blankBefore
    rw [trimmed, parts, solidLines, solidLines, before c rest _ _ notNewline isLines, isLines,
      List.filter_append, filter_blank_lines blankBefore.2, List.nil_append,
      filter_solid_cons notBlank (by simp), filter_solid_cons notBlank (by simp),
      List.modifyHead_cons, trimStart_blanks_append blankBefore.1 notBlank]

theorem solidLines_trimEnd (text : List Char) :
    solidLines (trimEnd text) = (solidLines text).modifyLast trimEnd := by
  rcases blank_or_last text with blank | ⟨front, c, blanks, blank, notBlank, parts, trimmed⟩
  · rw [solidLines_of_blank blank, trimEnd_eq_nil_iff.mpr blank]
    rfl
  · obtain ⟨first, more, isLines, members⟩ := exists_lines_cons notBlank blanks
    obtain ⟨whole, start, -, before⟩ := exists_lines_before front
    have notNewline : c ≠ '\n' := by rintro rfl; contradiction
    have blankAfter : ∀ line ∈ first :: more, ∀ x ∈ line, isBlank x = true :=
      fun line isLine x inLine => blank x (members line isLine x inLine)
    rw [List.forall_mem_cons] at blankAfter
    have last : lines [c] = [[c]] := lines_of_notMem (by simpa using Ne.symm notNewline) (by simp)
    rw [trimmed, parts, solidLines, solidLines, before c [] _ _ notNewline last,
      before c blanks _ _ notNewline isLines, List.filter_append, List.filter_append,
      filter_solid_cons notBlank (by simp), filter_solid_cons notBlank (by simp),
      filter_blank_lines blankAfter.2, List.filter_nil, List.modifyLast_concat,
      trimEnd_append_blanks blankAfter.1 notBlank]

end HouseStyle.Text

namespace HouseStyle.CompilationRule
open Text

/-! ## What is reported -/

def trimOuter (lines : List Line) : List Line :=
  (lines.modifyHead trimStart).modifyLast trimEnd

theorem trimOuter_singleton (line : Line) : trimOuter [line] = [trim line] := rfl

theorem trimOuter_cons_concat (first last : Line) (inner : List Line) :
    trimOuter (first :: inner ++ [last]) = trimStart first :: inner ++ [trimEnd last] := by
  rw [trimOuter, List.cons_append, List.modifyHead_cons, ← List.cons_append, List.modifyLast_concat]

theorem diagnosticLines_eq (diagnostics : String) :
    diagnosticLines diagnostics = trimOuter (solidLines diagnostics.toList) := by
  rw [trimOuter, ← solidLines_trimStart, ← solidLines_trimEnd]
  rfl

theorem outer_cases (lines : List Line) : lines = [] ∨ (∃ line, lines = [line]) ∨
    ∃ first inner last, lines = first :: inner ++ [last] := by
  rcases List.eq_nil_or_concat lines with empty | ⟨front, last, rfl⟩
  · exact .inl empty
  · cases front with
    | nil => exact .inr (.inl ⟨last, rfl⟩)
    | cons first inner => exact .inr (.inr ⟨first, inner, last, List.concat_eq_append⟩)

theorem length_trimOuter (lines : List Line) : (trimOuter lines).length = lines.length := by
  rcases outer_cases lines with rfl | ⟨line, rfl⟩ | ⟨first, inner, last, rfl⟩
  · rfl
  · rfl
  · rw [trimOuter_cons_concat]
    simp

theorem trim_eq_self_iff {line : Line} :
    trim line = line ↔ trimStart line = line ∧ trimEnd line = line := by
  constructor
  · intro same
    have shorter : (trimEnd (trimStart line)).length ≤ (trimStart line).length := by
      have suffix := (trimStart line).reverse.dropWhile_suffix isBlank
      simpa [trimEnd] using suffix.length_le
    have start : trimStart line = line := by
      refine (List.dropWhile_suffix _).eq_of_length_le ?_
      rw [← trim, same] at shorter
      exact shorter
    exact ⟨start, by rwa [trim, start] at same⟩
  · rintro ⟨start, finish⟩
    rw [trim, start, finish]

theorem trimOuter_eq_self_iff (lines : List Line) : trimOuter lines = lines ↔
    (∀ first ∈ lines.head?, trimStart first = first) ∧
    ∀ last ∈ lines.getLast?, trimEnd last = last := by
  rcases outer_cases lines with rfl | ⟨line, rfl⟩ | ⟨first, inner, last, rfl⟩
  · exact iff_of_true rfl (by simp)
  · simp [trimOuter_singleton, trim_eq_self_iff]
  · rw [trimOuter_cons_concat, List.getLast?_append]
    simp

/-- What is reported about a unit that is rejected: one finding for every line of the diagnostics that
is not blank, in their order, about the file as a whole. The line is told as it is, except that the
first one is told without the blanks before it and the last one without those after it; so all of
them are told as they are exactly if these two have no such blanks. -/
theorem check_rejected {checker : Checker} {source : Source} {diagnostics : String}
    (rejected : checker source.path = .ok (.failed diagnostics)) :
    let told := (lines diagnostics.toList).filter fun line => !Line.isBlank line
    let report (line : Line) : Finding :=
      ⟨.compilation, ⟨source.path, 0⟩, "Compiler error/warning: " ++ String.ofList line⟩
    check checker source = (trimOuter told).map report ∧
    (check checker source).length = told.length ∧
    (check checker source = told.map report ↔
      (∀ first ∈ told.head?, trimStart first = first) ∧
      ∀ last ∈ told.getLast?, trimEnd last = last) := by
  intro told report
  have reported : check checker source = (trimOuter told).map report := by
    rw [check, rejected]
    exact congrArg (List.map report) (diagnosticLines_eq diagnostics)
  have injective : Function.Injective report := by
    intro first second same
    have messages := congrArg Finding.message same
    exact String.ofList_injective (by simpa [report] using messages)
  refine ⟨reported, by rw [reported, List.length_map, length_trimOuter], ?_⟩
  rw [reported, (List.map_injective_iff.mpr injective).eq_iff, trimOuter_eq_self_iff]

theorem check_rejected_mark :
    let diagnostics := "a.c:1: error\r\n\n   ^ \n1 error\n"
    let checker : Checker := fun _ => .ok (.failed diagnostics)
    let source := Source.ofText "a.c" []
    checker source.path = .ok (.failed diagnostics) ∧
    (check checker source).length = 3 ∧
    check checker source = ["a.c:1: error", "   ^ ", "1 error"].map fun line =>
      ⟨.compilation, ⟨"a.c", 0⟩, "Compiler error/warning: " ++ line⟩ := by
  intro diagnostics checker source
  have rejected : checker source.path = .ok (.failed diagnostics) := rfl
  obtain ⟨-, count, verbatim⟩ := check_rejected rejected
  have told : ((lines diagnostics.toList).filter fun line => !Line.isBlank line) =
      ["a.c:1: error".toList, "   ^ ".toList, "1 error".toList] := by decide +kernel
  rw [told] at count verbatim
  exact ⟨rejected, count, (verbatim.mpr (by decide +kernel)).trans (by decide +kernel)⟩

/-- The only line of these diagnostics is both the first and the last one, and is told without the
blanks around it. -/
theorem outer_blanks_lost :
    let diagnostics := "  a.c:1: error \n"
    let checker : Checker := fun _ => .ok (.failed diagnostics)
    let source := Source.ofText "a.c" []
    ((lines diagnostics.toList).filter fun line => !Line.isBlank line) =
      ["  a.c:1: error ".toList] ∧
    check checker source = [⟨.compilation, ⟨"a.c", 0⟩, "Compiler error/warning: a.c:1: error"⟩] ∧
    check checker source ≠
      [⟨.compilation, ⟨"a.c", 0⟩, "Compiler error/warning:   a.c:1: error "⟩] := by
  decide +kernel

end HouseStyle.CompilationRule
