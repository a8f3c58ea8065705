import HouseStyle.Proofs.CommentTracking
import HouseStyle.Proofs.DefinitionGrammar
import HouseStyle.Rule.FunctionDoc

namespace HouseStyle
open DefinitionGrammar

/-! ## One line -/

namespace Definition

theorem bodyFollows_append (later more : List Line) : bodyFollows (later ++ more) =
    if later.all Line.isBlank then bodyFollows more else bodyFollows later := by
  rw [bodyFollows, List.find?_append, bodyFollows, bodyFollows]
  cases found : later.find? fun line => !Line.isBlank line with
  | none =>
      have blank : later.all Line.isBlank = true := by simpa using found
      rw [if_pos blank, Option.none_or]
  | some line =>
      have solid : ¬ later.all Line.isBlank = true := fun blank => by
        have notBlank := List.find?_some found
        rw [List.all_eq_true.mp blank line (List.mem_of_find?_eq_some found)] at notBlank
        contradiction
      rw [if_neg solid, Option.some_or]

theorem bodyFollows_blank {later : List Line} (blank : later.all Line.isBlank = true) :
    bodyFollows later = false := by
  have none := bodyFollows_append later []
  rw [List.append_nil, if_pos blank] at none
  exact none

theorem definedName?_congr (line : Line) {later later' : List Line}
    (same : bodyFollows later = bodyFollows later') :
    definedName? line later = definedName? line later' := by
  rw [definedName?, definedName?, same]

theorem definedName?_blank {line : Line} (blank : Line.isBlank line = true) (later : List Line) :
    definedName? line later = none := by
  rw [Line.isBlank, decide_eq_true_eq] at blank
  rw [definedName?, blank]
  rfl

theorem definedName?_append {line : Line} {later : List Line} {name : List Char}
    (defines : definedName? line later = some name) (more : List Line) :
    definedName? line (later ++ more) = some name := by
  rw [definedName?_eq_some_iff] at defines ⊢
  obtain ⟨reading, isName, free, follows⟩ := defines
  refine ⟨reading, isName, free, follows.imp_right fun ⟨blank, body⟩ => ⟨blank, ?_⟩⟩
  obtain ⟨blanks, next, others, tail, rfl, before, notBlank, starts⟩ := body
  exact ⟨blanks, next, others ++ more, tail, by simp, before, notBlank, starts⟩

def below (count : Nat) (definition : Definition) : Definition :=
  { definition with line := count + definition.line }

end Definition

/-! ## Line by line -/

def Scan.definedName? (scan : Scan) (line : Line) (later : List Line) : Option (List Char) :=
  if (scan.classify line).1 = .code then Definition.definedName? line later else none

def definitionsFrom (scan : Scan) (number : Nat) : List Line → List Definition
  | [] => []
  | line :: rest =>
    ((scan.definedName? line rest).map (Definition.mk number)).toList ++
      definitionsFrom (scan.classify line).2 (number + 1) rest

theorem definitions_eq_definitionsFrom (lines : List Line) :
    definitions lines = definitionsFrom {} 1 lines := by
  -- Generalised to the lines after any others, which the indices of code lines count as well.
  suffices later : ∀ (rest before : List Line) (scan : Scan),
      (scan.codeLines before.length rest).filterMap (fun entry =>
        (Definition.definedName? entry.2 ((before ++ rest).drop (entry.1 + 1))).map fun name =>
          ⟨entry.1 + 1, name⟩) = definitionsFrom scan (before.length + 1) rest from
    later lines [] {}
  intro rest
  induction rest with
  | nil => simp [Scan.codeLines, definitionsFrom]
  | cons line rest ih =>
      intro before scan
      have after := ih (before ++ [line]) (scan.classify line).2
      rw [List.length_append, List.length_singleton, List.append_assoc, List.singleton_append] at after
      rw [Scan.codeLines_cons, List.filterMap_append, after, definitionsFrom, Scan.definedName?]
      congr 1
      split
      · have afterLine : (before ++ line :: rest).drop (before.length + 1) = rest := by simp
        simp only [List.filterMap_cons, List.filterMap_nil, afterLine]
        cases Definition.definedName? line rest <;> rfl
      · rfl

theorem definitionsFrom_shift (count : Nat) (scan : Scan) (number : Nat) (lines : List Line) :
    definitionsFrom scan (count + number) lines =
      (definitionsFrom scan number lines).map (Definition.below count) := by
  induction lines generalizing scan number with
  | nil => rfl
  | cons line rest ih =>
      rw [definitionsFrom, definitionsFrom, List.map_append, ← ih, Nat.add_assoc]
      cases scan.definedName? line rest <;> rfl

/-! ## Lines after others -/

theorem definitionsFrom_blank_append {blanks : List Line}
    (blank : blanks.all Line.isBlank = true) (scan : Scan) (number : Nat) (more : List Line) :
    definitionsFrom scan number (blanks ++ more) =
      definitionsFrom (scan.afterLines blanks) (number + blanks.length) more := by
  induction blanks generalizing scan number with
  | nil => rfl
  | cons line rest ih =>
      rw [List.all_cons, Bool.and_eq_true] at blank
      have nothing : scan.definedName? line (rest ++ more) = none := by
        rw [Scan.definedName?, Definition.definedName?_blank blank.1, ite_self]
      rw [List.cons_append, definitionsFrom, nothing, ih blank.2, List.length_cons, Nat.add_assoc,
        Nat.add_comm 1]
      rfl

/-- What a line defines is the same with appended lines, unless it waits for a brace at the end and
they start with one. -/
theorem Scan.definedName?_append (scan : Scan) (line : Line) (later more : List Line) :
    scan.definedName? line (later ++ more) = scan.definedName? line later ∨
      scan.definedName? line later = none ∧ later.all Line.isBlank = true ∧
        Definition.bodyFollows more = true := by
  rw [definedName?, definedName?]
  split
  · cases defines : Definition.definedName? line later with
    | some name => exact .inl (Definition.definedName?_append defines more)
    | none =>
        have follows := Definition.bodyFollows_append later more
        split at follows
        · rename_i blank
          cases opens : Definition.bodyFollows more with
          | true => exact .inr ⟨rfl, blank, rfl⟩
          | false =>
              rw [opens, ← Definition.bodyFollows_blank blank] at follows
              exact .inl ((Definition.definedName?_congr line follows).trans defines)
        · exact .inl ((Definition.definedName?_congr line follows).trans defines)
  · exact .inl rfl

theorem exists_seam (scan : Scan) (number : Nat) (lines more : List Line) :
    ∃ seam, definitionsFrom scan number (lines ++ more) = definitionsFrom scan number lines ++
        (seam ++ definitionsFrom (scan.afterLines lines) (number + lines.length) more) ∧
      seam.length ≤ 1 ∧ (seam ≠ [] → BodyFollows more) := by
  induction lines generalizing scan number with
  | nil => exact ⟨[], rfl, by simp, by simp⟩
  | cons line rest ih =>
      have place : number + (line :: rest).length = number + 1 + rest.length := by
        rw [List.length_cons]
        omega
      rcases scan.definedName?_append line rest more with same | ⟨nothing, blank, opens⟩
      · obtain ⟨seam, parts, short, needed⟩ := ih (scan.classify line).2 (number + 1)
        refine ⟨seam, ?_, short, needed⟩
        rw [List.cons_append, definitionsFrom, same, parts, definitionsFrom, List.append_assoc, place]
        rfl
      · -- All that follows in the first part is blank, so the seam is what this line defines.
        have noRest : definitionsFrom (scan.classify line).2 (number + 1) rest = [] := by
          have none := definitionsFrom_blank_append blank (scan.classify line).2 (number + 1) []
          rwa [List.append_nil] at none
        refine ⟨((scan.definedName? line (rest ++ more)).map (Definition.mk number)).toList, ?_, ?_, ?_⟩
        · rw [List.cons_append, definitionsFrom, definitionsFrom_blank_append blank, definitionsFrom,
            nothing, noRest, place]
          rfl
        · exact Option.length_toList_le
        · exact fun _ => (bodyFollows_iff more).mp opens

/-! ## A file in two parts -/

theorem exists_definitions_append (lines more : List Line) :
    ∃ seam, definitions (lines ++ more) = definitions lines ++
        (seam ++ definitionsFrom (Scan.afterLines {} lines) (1 + lines.length) more) ∧
      seam.length ≤ 1 ∧ (seam ≠ [] → BodyFollows more) := by
  rw [definitions_eq_definitionsFrom, definitions_eq_definitionsFrom]
  exact exists_seam {} 1 lines more

theorem definitionsFrom_outside {lines : List Line}
    (outside : (Scan.afterLines {} lines).inComment = false) (more : List Line) : definitionsFrom (Scan.afterLines {} lines) (1 + lines.length) more =
      (definitions more).map (Definition.below lines.length) := by
  have fresh : Scan.afterLines {} lines = {} := by
    rw [Scan.afterLines_frame, outside]
  rw [fresh, Nat.add_comm, definitionsFrom_shift, definitions_eq_definitionsFrom]

theorem line_of_mem_definitions {lines : List Line} {definition : Definition}
    (member : definition ∈ definitions lines) : definition.line ≤ lines.length := by
  obtain ⟨index, line, isNumber, isCode, -⟩ := mem_definitions_iff.mp member
  obtain ⟨inside, -⟩ := List.getElem?_eq_some_iff.mp (getElem?_of_mem_codeLines isCode)
  omega

theorem Documentation.inspect_append {lines : List Line} {definition : Definition}
    (inside : definition.line ≤ lines.length) (more : List Line) (window : Nat) :
    inspect (lines ++ more) definition window = inspect lines definition window := by
  have above_append : above (lines ++ more) definition.line window =
      above lines definition.line window := by
    have stop : min (definition.line - 1) lines.length = definition.line - 1 := by omega
    have stop' : min (definition.line - 1) (lines ++ more).length = definition.line - 1 := by
      rw [List.length_append]
      omega
    rw [above, above, stop, stop', List.take_append_of_le_length (by omega)]
  rw [inspect, above_append, inspect]

theorem FunctionDocRule.check_append (rule : FunctionDocRule) (path : Path)
    (lines more : List Line) : rule.check ⟨path, lines⟩ <+: rule.check ⟨path, lines ++ more⟩ := by
  obtain ⟨seam, parts, -, -⟩ := exists_definitions_append lines more
  have same : ∀ definition ∈ definitions lines,
      (!(Documentation.inspect (lines ++ more) definition rule.window).found) =
        !(Documentation.inspect lines definition rule.window).found := fun definition member => by
    rw [Documentation.inspect_append (line_of_mem_definitions member)]
  rw [check, check, parts, List.filter_append, List.filter_congr same, List.map_append]
  exact List.prefix_append _ _

/-- The definitions of a file are found again, in the same order, when lines are appended to it, and
so are the functions without documentation. If no comment is open between the two parts and the
second does not start with a brace, apart from blank lines, then the definitions of the whole are
those of the first part and those of the second, which stand as many lines further down. -/
theorem definitions_append_stable (lines more : List Line) :
    definitions lines <+: definitions (lines ++ more) ∧
    (∀ path window, FunctionDocRule.check ⟨window⟩ ⟨path, lines⟩ <+:
      FunctionDocRule.check ⟨window⟩ ⟨path, lines ++ more⟩) ∧
    ((Scan.afterLines {} lines).inComment = false → ¬ BodyFollows more →
      definitions (lines ++ more) =
        definitions lines ++ (definitions more).map (Definition.below lines.length)) := by
  obtain ⟨seam, parts, -, needed⟩ := exists_definitions_append lines more
  refine ⟨?_, fun path window => FunctionDocRule.check_append ⟨window⟩ path lines more, ?_⟩
  · rw [parts]
    exact List.prefix_append _ _
  · intro outside noBrace
    have noSeam : seam = [] := by
      by_contra nonempty
      exact noBrace (needed nonempty)
    rw [parts, noSeam, List.nil_append, definitionsFrom_outside outside]

theorem definitions_append_stable_unfinished :
    let lines := ["int f(void) \x7b", "\x7d /* f */", "int g(void)", "  "].map String.toList
    let more := ["", "int h(void)", "\x7b"].map String.toList
    (Scan.afterLines {} lines).inComment = false ∧ ¬ BodyFollows more ∧
    definitions (lines ++ more) =
      definitions lines ++ (definitions more).map (Definition.below 4) ∧
    definitions (lines ++ more) = [⟨1, ['f']⟩, ⟨6, ['h']⟩] := by
  intro lines more
  have outside : (Scan.afterLines {} lines).inComment = false := by decide
  have noBrace : ¬ BodyFollows more := by
    rw [← bodyFollows_iff]
    decide
  exact ⟨outside, noBrace, (definitions_append_stable lines more).2.2 outside noBrace,
    by decide +kernel⟩

end HouseStyle
