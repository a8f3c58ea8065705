import HouseStyle.Proofs.Assignment

/-!
# Assignment operators

The reference for the search for assignments is the way C reads a line: operators are taken by the
longest match. The search looks at the two neighbours of an equals sign only. Where it finds an
assignment, there is one; but it does not see all of them:

* the operators `<<=` and `>>=`, which end like the comparisons `<=` and `>=`,
* and operators that touch another one, so that a neighbour of the equals sign does not belong to its
  own operator.

The main statements:

* `IsFirst.longest`: what the longest match means.
* `flatten_pieces`: a text is read as a whole.
* `signsAfter_piece`: the search goes piece by piece.
* `hasAssignment_iff_seen`: what the search finds, said in terms of operators.
-/

namespace HouseStyle.Operators
open Line

/-! ## Reading by the longest match -/

def operators : List (List Char) :=
  ["<<=", ">>=", "==", "!=", "<=", ">=", "+=", "-=", "*=", "/=", "%=", "&=", "|=", "^=", "<<", ">>",
    "->", "++", "--", "&&", "||", "=", "!", "<", ">", "+", "-", "*", "/", "%", "&", "|", "^", "~", "?",
    ":", ".", ","].map String.toList

def assignmentOperators : List (List Char) :=
  ["=", "+=", "-=", "*=", "/=", "%=", "&=", "|=", "^=", "<<=", ">>="].map String.toList

def shiftAssignments : List (List Char) :=
  ["<<=", ">>="].map String.toList

/-- The first piece of a text: the longest operator that it starts with, or else one character. -/
def firstPiece (text : List Char) : List Char :=
  (operators.find? (·.isPrefixOf text)).getD (text.take 1)

structure IsFirst (piece rest : List Char) : Prop where
  nonempty : piece ≠ []
  first : firstPiece (piece ++ rest) = piece

theorem length_le_of_find? {text operator other : List Char}
    (found : operators.find? (·.isPrefixOf text) = some operator) (isOperator : other ∈ operators)
    (starts : other <+: text) : other.length ≤ operator.length := by
  have sorted : operators.Pairwise fun first second => second.length ≤ first.length := by decide
  obtain ⟨-, longer, shorter, parts, notLonger⟩ := List.find?_eq_some_iff_append.mp found
  rw [parts, List.pairwise_append, List.pairwise_cons] at sorted
  rw [parts, List.mem_append, List.mem_cons] at isOperator
  rcases isOperator with isLonger | rfl | isShorter
  · have notHere := notLonger other isLonger
    rw [List.isPrefixOf_iff_prefix.mpr starts] at notHere
    contradiction
  · exact Nat.le_refl _
  · exact sorted.2.1.1 other isShorter

/-- The longest match: what is read first is an operator, and no longer one starts there, or it is one
character where no operator starts at all. -/
theorem IsFirst.longest {piece rest : List Char} (isFirst : IsFirst piece rest) :
    (piece ∈ operators ∧ ∀ other ∈ operators, other <+: piece ++ rest → other.length ≤ piece.length) ∨
    ∃ c, piece = [c] ∧ ∀ other ∈ operators, ¬ other <+: piece ++ rest := by
  obtain ⟨nonempty, first⟩ := isFirst
  rw [firstPiece] at first
  cases found : operators.find? (·.isPrefixOf (piece ++ rest)) with
  | some operator =>
      rw [found, Option.getD_some] at first
      subst first
      exact .inl ⟨List.mem_of_find?_eq_some found, fun other => length_le_of_find? found⟩
  | none =>
      rw [found, Option.getD_none] at first
      obtain ⟨c, others, rfl⟩ := List.exists_cons_of_ne_nil nonempty
      refine .inr ⟨c, first.symm, fun other isOperator starts => ?_⟩
      exact List.find?_eq_none.mp found other isOperator (List.isPrefixOf_iff_prefix.mpr starts)

theorem firstPiece_cons (c : Char) (rest : List Char) :
    ∃ others tail, firstPiece (c :: rest) = c :: others ∧ c :: rest = c :: others ++ tail := by
  have nonempty : ∀ operator ∈ operators, operator ≠ [] := by decide
  rw [firstPiece]
  cases found : operators.find? (·.isPrefixOf (c :: rest)) with
  | some operator =>
      obtain ⟨d, others, rfl⟩ :=
        List.exists_cons_of_ne_nil (nonempty operator (List.mem_of_find?_eq_some found))
      have starts := List.find?_some found
      simp only [List.isPrefixOf_iff_prefix] at starts
      obtain ⟨tail, parts⟩ := starts
      obtain ⟨rfl, -⟩ := List.cons.inj parts
      exact ⟨others, tail, rfl, parts.symm⟩
  | none => exact ⟨[], rest, rfl, rfl⟩

def pieces (text : List Char) : List (List Char) :=
  match text with
  | [] => []
  | c :: rest =>
    firstPiece (c :: rest) :: pieces ((c :: rest).drop (firstPiece (c :: rest)).length)
termination_by text.length
decreasing_by
  obtain ⟨others, tail, first, -⟩ := firstPiece_cons c rest
  rw [first, List.length_drop, List.length_cons, List.length_cons]
  omega

theorem pieces_nil : pieces [] = [] := by
  rw [pieces]

theorem pieces_append {piece rest : List Char} (isFirst : IsFirst piece rest) :
    pieces (piece ++ rest) = piece :: pieces rest := by
  obtain ⟨nonempty, first⟩ := isFirst
  obtain ⟨c, others, rfl⟩ := List.exists_cons_of_ne_nil nonempty
  rw [List.cons_append] at first ⊢
  rw [pieces, first, ← List.cons_append, List.drop_left]

@[elab_as_elim]
theorem pieces_induction {motive : List Char → Prop} (nil : motive [])
    (append : ∀ piece rest, IsFirst piece rest → motive rest → motive (piece ++ rest))
    (text : List Char) : motive text := by
  fun_induction pieces text with
  | case1 => exact nil
  | case2 c rest ih =>
      obtain ⟨others, tail, first, parts⟩ := firstPiece_cons c rest
      rw [first, parts, List.drop_left] at ih
      have isFirst : IsFirst (c :: others) tail := ⟨List.cons_ne_nil c others, by rw [← parts, first]⟩
      rw [parts]
      exact append (c :: others) tail isFirst ih

theorem flatten_pieces (text : List Char) : (pieces text).flatten = text := by
  induction text using pieces_induction with
  | nil => rw [pieces_nil, List.flatten_nil]
  | append piece rest isFirst ih => rw [pieces_append isFirst, List.flatten_cons, ih]

/-! ## The search among pieces -/

/-- The search sees the assignment in this piece, between the piece before it and the one after it. It
is an assignment operator, but not of a shift, and its equals sign touches no other operator that could
make a comparison of it. -/
structure Seen (previous : Option (List Char)) (piece : List Char) (next : Option (List Char)) :
    Prop where
  assigns : piece ∈ assignmentOperators
  noShift : piece ∉ shiftAssignments
  apart : piece = ['='] → ∀ other ∈ previous, other ≠ ['-', '>'] ∧ other.getLast? ≠ some '='
  ends : ∀ other ∈ next, other.head? ≠ some '='

theorem getLast?_or {piece : List Char} (nonempty : piece ≠ []) (previous : Option Char) :
    piece.getLast?.or previous = piece.getLast? := by
  rw [List.getLast?_eq_some_getLast nonempty, Option.some_or]

theorem signsAfter_append {front : List Char} (noEquals : '=' ∉ front) (previous : Option Char)
    (rest : List Char) :
    signsAfter previous (front ++ rest) = signsAfter (front.getLast?.or previous) rest := by
  induction front generalizing previous with
  | nil => rfl
  | cons c front ih =>
      rw [List.mem_cons, not_or] at noEquals
      have skipped : signsAfter previous (c :: (front ++ rest)) =
          signsAfter (some c) (front ++ rest) := by
        rw [Bool.eq_iff_iff, signsAfter_cons, or_iff_right fun assigns => noEquals.1 assigns.1.symm]
      rw [List.cons_append, skipped, ih noEquals.2, getLast?_cons_or]

theorem head?_pieces (text : List Char) : (∀ piece ∈ (pieces text).head?, piece.head? ≠ some '=') ↔
    text.head? ≠ some '=' := by
  induction text using pieces_induction with
  | nil => simp [pieces_nil]
  | append piece rest isFirst _ =>
      rw [pieces_append isFirst, List.head?_append_of_ne_nil _ isFirst.nonempty]
      simp

theorem isComparisonSign_eq_false {c : Char} {rest : List Char}
    (noOperator : ∀ operator ∈ operators, ¬ operator <+: [c] ++ rest) :
    isComparisonSign c = false := by
  have table : ∀ sign ∈ comparisonSigns, [sign] ∈ operators := by simp [comparisonSigns, operators]
  rw [← Bool.not_eq_true, isComparisonSign, List.contains_iff_mem]
  exact fun isSign => noOperator [c] (table c isSign) (List.prefix_append _ _)

/-- By the longest match an equals sign is read by itself after few operators only. Of those that end in
a sign of a comparison it is `->`, and those that have an equals sign at their end already. -/
theorem bare_iff {previous : Option (List Char)} {rest : List Char}
    (before : ∀ piece ∈ previous, IsFirst piece ('=' :: rest)) :
    (previous.bind List.getLast?).any isComparisonSign = false ↔
      ∀ other ∈ previous, other ≠ ['-', '>'] ∧ other.getLast? ≠ some '=' := by
  cases previous with
  | none => simp
  | some piece =>
      have table : ∀ operator ∈ operators, operator ++ ['='] ∉ operators →
          (operator.getLast?.any isComparisonSign = false ↔
            operator ≠ ['-', '>'] ∧ operator.getLast? ≠ some '=') := by decide +kernel
      have only : (∀ other ∈ some piece, other ≠ ['-', '>'] ∧ other.getLast? ≠ some '=') ↔
          piece ≠ ['-', '>'] ∧ piece.getLast? ≠ some '=' := by simp
      rw [Option.bind_some, only]
      rcases (before piece rfl).longest with ⟨isOperator, longest⟩ | ⟨c, rfl, noOperator⟩
      · refine table piece isOperator fun isLonger => ?_
        have bound := longest _ isLonger ⟨rest, by simp⟩
        rw [List.length_append, List.length_singleton] at bound
        omega
      · have noSign := isComparisonSign_eq_false noOperator
        refine iff_of_true noSign ⟨by simp, ?_⟩
        rintro ⟨rfl⟩
        contradiction

theorem signsAfter_noEquals {piece : List Char} (nonempty : piece ≠ []) (noEquals : '=' ∉ piece)
    (previous next : Option (List Char)) (rest : List Char) :
    signsAfter (previous.bind List.getLast?) (piece ++ rest) = true ↔
      Seen previous piece next ∨ signsAfter piece.getLast? rest = true := by
  have table : ∀ operator ∈ assignmentOperators, '=' ∈ operator := by decide
  rw [signsAfter_append noEquals, getLast?_or nonempty,
    or_iff_right fun seen => noEquals (table piece seen.assigns)]

theorem seen_iff {previous : Option (List Char)} {piece rest : List Char}
    (before : ∀ other ∈ previous, IsFirst other (piece ++ rest)) (isOperator : piece ∈ operators)
    (parts : piece = piece.dropLast ++ ['=']) (noEquals : '=' ∉ piece.dropLast) :
    Seen previous piece (pieces rest).head? ↔ rest.head? ≠ some '=' ∧
      (piece.dropLast.getLast?.or (previous.bind List.getLast?)).any isComparisonSign = false := by
  by_cases alone : piece = ['=']
  · subst alone
    have bare := bare_iff before
    constructor
    · exact fun seen => ⟨(head?_pieces rest).mp seen.ends, bare.mpr (seen.apart rfl)⟩
    · rintro ⟨ends, apart⟩
      exact ⟨by decide, by decide, fun _ => bare.mp apart, (head?_pieces rest).mpr ends⟩
  · have table : ∀ operator ∈ operators, operator = operator.dropLast ++ ['='] →
        '=' ∉ operator.dropLast → operator ≠ ['='] →
          (operator.dropLast.getLast?.any isComparisonSign = false ↔
            operator ∈ assignmentOperators ∧ operator ∉ shiftAssignments) := by decide +kernel
    have nonempty : piece.dropLast ≠ [] := fun empty => alone (by rwa [empty] at parts)
    rw [getLast?_or nonempty, table piece isOperator parts noEquals alone]
    constructor
    · exact fun seen => ⟨(head?_pieces rest).mp seen.ends, seen.assigns, seen.noShift⟩
    · rintro ⟨ends, assigns, noShift⟩
      exact ⟨assigns, noShift, fun isAlone => absurd isAlone alone, (head?_pieces rest).mpr ends⟩

theorem signsAfter_piece {previous : Option (List Char)} {piece rest : List Char}
    (before : ∀ other ∈ previous, IsFirst other (piece ++ rest)) (isFirst : IsFirst piece rest) :
    signsAfter (previous.bind List.getLast?) (piece ++ rest) = true ↔
      Seen previous piece (pieces rest).head? ∨ signsAfter piece.getLast? rest = true := by
  rcases isFirst.longest with ⟨isOperator, -⟩ | ⟨c, rfl, noOperator⟩
  · have table : ∀ operator ∈ operators, '=' ∉ operator ∨ operator = ['=', '='] ∨
        operator = operator.dropLast ++ ['='] ∧ '=' ∉ operator.dropLast := by decide
    rcases table piece isOperator with noEquals | rfl | ⟨parts, noEquals⟩
    · exact signsAfter_noEquals isFirst.nonempty noEquals previous _ rest
    · -- Each of the two equals signs makes the other one part of a comparison.
      have unseen : ¬ Seen previous ['=', '='] (pieces rest).head? := fun seen =>
        absurd seen.assigns (by decide)
      rw [or_iff_right unseen, List.cons_append, signsAfter_cons, List.singleton_append, signsAfter_cons]
      simp [isComparisonSign, comparisonSigns]
    · rw [seen_iff before isOperator parts noEquals]
      have last : piece.getLast? = some '=' := by rw [parts, List.getLast?_concat]
      have text : piece ++ rest = piece.dropLast ++ '=' :: rest := by
        conv_lhs => rw [parts]
        rw [List.append_assoc, List.singleton_append]
      rw [text, signsAfter_append noEquals, signsAfter_cons, last]
      simp only [true_and]
  · refine signsAfter_noEquals isFirst.nonempty (fun equals => ?_) previous _ rest
    obtain rfl := List.mem_singleton.mp equals
    have noSign := isComparisonSign_eq_false noOperator
    contradiction

def SeenAmong (previous : Option (List Char)) (texts : List (List Char)) : Prop :=
  ∃ before piece after, texts = before ++ piece :: after ∧
    Seen (before.getLast?.or previous) piece after.head?

theorem seenAmong_cons {previous : Option (List Char)} {first : List Char}
    {texts : List (List Char)} : SeenAmong previous (first :: texts) ↔
      Seen previous first texts.head? ∨ SeenAmong (some first) texts :=
  amongNeighbours_cons

theorem signsAfter_iff_seenAmong (text : List Char) (previous : Option (List Char))
    (before : ∀ piece ∈ previous, IsFirst piece text) :
    signsAfter (previous.bind List.getLast?) text = true ↔ SeenAmong previous (pieces text) := by
  -- Induction along the pieces: the piece that is read now is the one before the rest.
  induction text using pieces_induction generalizing previous with
  | nil => simp [signsAfter, pieces_nil, SeenAmong]
  | append piece rest isFirst ih =>
      have later := ih (some piece) (by simpa using isFirst)
      rw [signsAfter_piece before isFirst, pieces_append isFirst, seenAmong_cons, ← later,
        Option.bind_some]

/-! ## What the search finds -/

/-- The search finds an assignment in a line exactly if one of the operators that C reads there is an
assignment operator, neither `<<=` nor `>>=`, that does not touch an equals sign of the next piece. If
it is `=` itself, then it also must not touch `->` or an equals sign of the piece before it. -/
theorem hasAssignment_iff_seen (line : Line) : hasAssignment line = true ↔
    ∃ before piece after, pieces line = before ++ piece :: after ∧
      Seen before.getLast? piece after.head? := by
  have among := signsAfter_iff_seenAmong line none (by simp)
  rw [Option.bind_none] at among
  rw [hasAssignment_eq_signsAfter, among, SeenAmong]
  simp only [Option.or_none]

theorem shift_assignment_unseen :
    let line := "bits <<= fscanf(in, \"%d\", &n);".toList
    ¬ (hasAssignment line = true ↔ ∃ piece ∈ pieces line, piece ∈ assignmentOperators) ∧
    "<<=".toList ∈ pieces line ∧ hasAssignment line = false ∧
    ErrorHandlingRule.check {} ⟨"a.c", [line]⟩ = [] := by
  decide +kernel

end HouseStyle.Operators
