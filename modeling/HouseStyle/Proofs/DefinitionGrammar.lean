import HouseStyle.Proofs.Scan
import HouseStyle.Proofs.Text
import HouseStyle.Source.Definition

/-!
# The grammar of function definitions

Definitions are found by cutting runs of characters off a line. Here the same lines are described by
a grammar, `word gap name space ( body ) rest`, and by what has to follow the rest:

* `Signature.unique`: a text has at most one reading in this grammar, because word characters and
  blanks are different characters.
* `signature?_eq_some_iff`: cutting off runs finds this reading, and only this one.
* `definedName?_eq_some_iff`: what a single line defines.
* `mem_definitions_iff` and `definitions_increasing` carry this to a file.
-/

namespace HouseStyle.DefinitionGrammar
open Text

/-! ## Readings of a text -/

/-- A reading of a text as a word, blanks, a name, blanks or none, a list in parentheses, and a
rest. -/
structure Signature (text : List Char) where
  word : List Char
  gap : List Char
  name : List Char
  space : List Char
  body : List Char
  rest : List Char
  reads : text = word ++ (gap ++ (name ++ (space ++ '(' :: (body ++ ')' :: rest))))
  word_nonempty : word ≠ []
  word_chars : ∀ c ∈ word, isWordChar c = true
  gap_nonempty : gap ≠ []
  gap_blank : ∀ c ∈ gap, isBlank c = true
  name_nonempty : name ≠ []
  name_chars : ∀ c ∈ name, isWordChar c = true
  space_blank : ∀ c ∈ space, isBlank c = true
  body_chars : ')' ∉ body

theorem head?_of_run {P : Char → Prop} {run rest : List Char} (nonempty : run ≠ [])
    (all : ∀ c ∈ run, P c) : ∀ c ∈ (run ++ rest).head?, P c := by
  cases run with
  | nil => contradiction
  | cons first run => simpa using all first (by simp)

namespace Signature

variable {text : List Char}

/-! Each part of a reading ends where its class of characters ends. -/

theorem word_stops (reading : Signature text) (rest : List Char) :
    ∀ c ∈ (reading.gap ++ rest).head?, isWordChar c = false :=
  head?_of_run reading.gap_nonempty fun c member => isWordChar_of_isBlank (reading.gap_blank c member)

theorem gap_stops (reading : Signature text) (rest : List Char) :
    ∀ c ∈ (reading.name ++ rest).head?, isBlank c = false :=
  head?_of_run reading.name_nonempty fun c member =>
    isBlank_of_isWordChar (reading.name_chars c member)

theorem name_stops (reading : Signature text) (rest : List Char) :
    ∀ c ∈ (reading.space ++ '(' :: rest).head?, isWordChar c = false := by
  cases blanks : reading.space with
  | nil =>
      rintro c ⟨⟩
      decide
  | cons first space =>
      rintro c ⟨⟩
      exact isWordChar_of_isBlank (reading.space_blank first (by simp [blanks]))

theorem space_stops (rest : List Char) : ∀ c ∈ ('(' :: rest).head?, isBlank c = false := by
  rintro c ⟨⟩
  decide

theorem body_inside (reading : Signature text) : ∀ c ∈ reading.body, decide (c ≠ ')') = true := by
  intro c member
  refine decide_eq_true fun same => reading.body_chars ?_
  rwa [← same]

theorem body_stops (rest : List Char) : ∀ c ∈ (')' :: rest).head?, decide (c ≠ ')') = false := by
  simp

theorem unique (first second : Signature text) : first = second := by
  have same := first.reads.symm.trans second.reads
  obtain ⟨word, same⟩ := run_unique same first.word_chars (first.word_stops _) second.word_chars
    (second.word_stops _)
  obtain ⟨gap, same⟩ := run_unique same first.gap_blank (first.gap_stops _) second.gap_blank
    (second.gap_stops _)
  obtain ⟨name, same⟩ := run_unique same first.name_chars (first.name_stops _) second.name_chars
    (second.name_stops _)
  obtain ⟨space, same⟩ := run_unique same first.space_blank (space_stops _) second.space_blank
    (space_stops _)
  obtain ⟨body, same⟩ := run_unique (List.cons.inj same).2 first.body_inside (body_stops _)
    second.body_inside (body_stops _)
  have rest := (List.cons.inj same).2
  cases first
  cases second
  simp_all

end Signature

/-! ## Cutting off runs -/

theorem signature?_of_reading {text : List Char} (reading : Signature text) :
    Definition.signature? text = some (reading.name, reading.rest) := by
  have word := (congrArg (List.takeWhile isWordChar) reading.reads).trans
    (takeWhile_run reading.word_chars (reading.word_stops _))
  have afterWord := (congrArg (List.dropWhile isWordChar) reading.reads).trans
    (dropWhile_run reading.word_chars (reading.word_stops _))
  have gap (rest) := takeWhile_run reading.gap_blank (reading.gap_stops rest)
  have afterGap (rest) := dropWhile_run reading.gap_blank (reading.gap_stops rest)
  have name (rest) := takeWhile_run reading.name_chars (reading.name_stops rest)
  have afterName (rest) := dropWhile_run reading.name_chars (reading.name_stops rest)
  have afterSpace (rest) := dropWhile_run reading.space_blank (Signature.space_stops rest)
  have afterBody (rest) := dropWhile_run reading.body_inside (Signature.body_stops rest)
  simp only [Definition.signature?, word, afterWord, gap, afterGap, name, afterName, afterSpace,
    afterBody]
  simp [reading.word_nonempty, reading.gap_nonempty, reading.name_nonempty]

theorem reading_of_signature? {text name rest : List Char}
    (found : Definition.signature? text = some (name, rest)) :
    ∃ reading : Signature text, reading.name = name ∧ reading.rest = rest := by
  simp only [Definition.signature?] at found
  split at found
  · contradiction
  · rename_i nonempty
    simp only [Bool.or_eq_true, decide_eq_true_eq, not_or] at nonempty
    split at found
    · rename_i arguments afterSpace
      split at found
      · rename_i tail afterBody
        obtain ⟨rfl, rfl⟩ := Prod.mk.inj (Option.some.inj found)
        -- The parts of the reading are the runs that were cut off; the blanks were not kept.
        refine ⟨⟨_, _, _, (((text.dropWhile isWordChar).dropWhile isBlank).dropWhile
          isWordChar).takeWhile isBlank, arguments.takeWhile (· ≠ ')'), tail, ?_, nonempty.1.1,
          fun c => List.mem_takeWhile_imp, nonempty.1.2, fun c => List.mem_takeWhile_imp, nonempty.2,
          fun c => List.mem_takeWhile_imp, fun c => List.mem_takeWhile_imp, ?_⟩, rfl, rfl⟩
        · rw [← afterBody, List.takeWhile_append_dropWhile, ← afterSpace,
            List.takeWhile_append_dropWhile, List.takeWhile_append_dropWhile,
            List.takeWhile_append_dropWhile, List.takeWhile_append_dropWhile]
        · intro member
          simpa using List.mem_takeWhile_imp member
      · contradiction
    · contradiction

theorem signature?_eq_some_iff {text name rest : List Char} :
    Definition.signature? text = some (name, rest) ↔
      ∃ reading : Signature text, reading.name = name ∧ reading.rest = rest := by
  constructor
  · exact reading_of_signature?
  · rintro ⟨reading, rfl, rfl⟩
    exact signature?_of_reading reading

/-! ## The line of a definition -/

def BodyFollows (later : List Line) : Prop :=
  ∃ blanks line more tail, later = blanks ++ line :: more ∧
    (∀ blank ∈ blanks, ∀ c ∈ blank, isBlank c = true) ∧ (¬ ∀ c ∈ line, isBlank c = true) ∧
    trim line = '\x7b' :: tail

def reservedNames : List (List Char) :=
  [['m', 'a', 'i', 'n'], ['i', 'f'], ['w', 'h', 'i', 'l', 'e'], ['f', 'o', 'r'],
    ['s', 'w', 'i', 't', 'c', 'h']]

/-- What it means that a line defines a name, where `later` are the lines after it: the name is that
of its reading and is not reserved, and a brace follows the parentheses, on this line or, if nothing
else is left of it, at the start of the next line that is not blank. -/
def Defines (line : Line) (later : List Line) (name : List Char) : Prop :=
  ∃ reading : Signature (trim line), reading.name = name ∧ name ∉ reservedNames ∧
    ((∃ body, trimStart reading.rest = '\x7b' :: body) ∨
      (∀ c ∈ reading.rest, isBlank c = true) ∧ BodyFollows later)

theorem opensBody_iff (text : List Char) :
    Definition.opensBody text = true ↔ ∃ body, text = '\x7b' :: body := by
  cases text <;> simp [Definition.opensBody]

theorem isBlank_line_iff (line : Line) :
    Line.isBlank line = true ↔ ∀ c ∈ line, isBlank c = true := by
  rw [Line.isBlank, decide_eq_true_iff, trim_eq_nil_iff]

theorem bodyFollows_iff (later : List Line) :
    Definition.bodyFollows later = true ↔ BodyFollows later := by
  unfold Definition.bodyFollows
  constructor
  · intro follows
    split at follows
    · rename_i line found
      obtain ⟨notBlank, blanks, more, rfl, before⟩ := List.find?_eq_some_iff_append.mp found
      obtain ⟨tail, starts⟩ := (opensBody_iff _).mp follows
      refine ⟨blanks, line, more, tail, rfl, fun blank member => ?_, ?_, starts⟩
      · exact (isBlank_line_iff blank).mp (by simpa using before blank member)
      · rw [← isBlank_line_iff]
        simpa using notBlank
    · contradiction
  · rintro ⟨blanks, line, more, tail, rfl, before, notBlank, starts⟩
    have found : (blanks ++ line :: more).find? (fun line => !Line.isBlank line) = some line := by
      refine List.find?_eq_some_iff_append.mpr ⟨?_, blanks, more, rfl, fun blank member => ?_⟩
      · simpa [← isBlank_line_iff] using notBlank
      · simpa using (isBlank_line_iff blank).mpr (before blank member)
    rw [found]
    exact (opensBody_iff _).mpr ⟨tail, starts⟩

theorem exemptNames_eq : Definition.exemptNames = reservedNames := by decide

theorem definedName?_of_reading {line : Line} (later : List Line) (reading : Signature (trim line)) :
    Definition.definedName? line later =
      if Definition.exemptNames.contains reading.name then none
      else if Definition.opensBody (trimStart reading.rest) ||
          (trimStart reading.rest = [] && Definition.bodyFollows later) then some reading.name
      else none := by
  rw [Definition.definedName?, signature?_of_reading reading]

theorem definedName?_eq_some_iff {line : Line} {later : List Line} {name : List Char} :
    Definition.definedName? line later = some name ↔ Defines line later name := by
  constructor
  · intro found
    cases signature : Definition.signature? (trim line) with
    | none => simp [Definition.definedName?, signature] at found
    | some cut =>
        obtain ⟨reading, -, -⟩ := signature?_eq_some_iff.mp signature
        rw [definedName?_of_reading later reading] at found
        split at found
        · contradiction
        · rename_i free
          split at found
          · rename_i follows
            refine ⟨reading, Option.some.inj found, ?_, ?_⟩
            · rw [← Option.some.inj found, ← exemptNames_eq]
              simpa using free
            · simpa [opensBody_iff, bodyFollows_iff, trimStart_eq_nil_iff] using follows
          · contradiction
  · rintro ⟨reading, rfl, free, follows⟩
    rw [definedName?_of_reading later reading, if_neg, if_pos]
    · simpa [opensBody_iff, bodyFollows_iff, trimStart_eq_nil_iff] using follows
    · rw [exemptNames_eq]
      simpa using free

/-! ## The definitions of a file -/

theorem mem_definitions_iff {lines : List Line} {number : Nat} {name : List Char} :
    ⟨number, name⟩ ∈ definitions lines ↔ ∃ index line, number = index + 1 ∧
      (index, line) ∈ codeLines lines ∧ Defines line (lines.drop (index + 1)) name := by
  simp only [definitions, List.mem_filterMap, Option.map_eq_some_iff, definedName?_eq_some_iff]
  constructor
  · rintro ⟨⟨index, line⟩, member, found, defines, same⟩
    obtain ⟨rfl, rfl⟩ := Definition.mk.inj same
    exact ⟨index, line, rfl, member, defines⟩
  · rintro ⟨index, line, rfl, member, defines⟩
    exact ⟨(index, line), member, name, defines, rfl⟩

theorem definitions_increasing (lines : List Line) :
    (definitions lines).Pairwise fun first second => first.line < second.line := by
  rw [definitions, List.pairwise_filterMap]
  refine (Scan.codeLines_increasing {} 0 lines).imp ?_
  rintro ⟨index, line⟩ ⟨index', line'⟩ before first isFirst second isSecond
  obtain ⟨name, -, rfl⟩ := Option.map_eq_some_iff.mp isFirst
  obtain ⟨name', -, rfl⟩ := Option.map_eq_some_iff.mp isSecond
  exact Nat.succ_lt_succ before

/-- The definitions that are found are those of the grammar, each once and in the order of their
lines; and the grammar gives every line at most one name. -/
theorem definitions_exact (lines : List Line) :
    (definitions lines).Pairwise (fun first second => first.line < second.line) ∧
    (∀ number name, ⟨number, name⟩ ∈ definitions lines ↔ ∃ index line, number = index + 1 ∧
      lines[index]? = some line ∧ (index, line) ∈ codeLines lines ∧
      Defines line (lines.drop (index + 1)) name) ∧
    ∀ (text : List Char) (first second : Signature text), first = second := by
  refine ⟨definitions_increasing lines, fun number name => ?_, fun _ => Signature.unique⟩
  rw [mem_definitions_iff]
  constructor
  · rintro ⟨index, line, place, member, defines⟩
    exact ⟨index, line, place, getElem?_of_mem_codeLines member, member, defines⟩
  · rintro ⟨index, line, place, -, member, defines⟩
    exact ⟨index, line, place, member, defines⟩

end HouseStyle.DefinitionGrammar
