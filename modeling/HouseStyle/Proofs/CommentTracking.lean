import HouseStyle.Proofs.Scan
import HouseStyle.Proofs.Text

/-!
# Comment tracking against a character scan

Comment tracking reads two facts off a line, whether it holds an opening mark and whether it holds a
closing one. The reference is a scan of the single characters that carries one flag from line to
line. The two agree as long as a line holds each mark at most once and the closing one behind the
opening one:

* `scanLine_opened`: without a closing mark a line can only open a comment.
* `scanLine_closed_inside`, `scanLine_closed_outside`: a line with a closing mark ends outside a
  comment, whichever way it began, if its opening mark stands before the closing one.
* `openAtEnd_eq_inComment_classify`: hence one line moves both flags in the same way.
-/

namespace HouseStyle.CommentTracking

/-! ## The character scan -/

/-- What a character scan tells of a line: for each of its characters whether it belongs to a block
comment, and whether a comment is open at the end of the line. -/
structure CharacterScan where
  inside : List Bool
  openAtEnd : Bool
  deriving DecidableEq

namespace CharacterScan

def after (count : Nat) (inside : Bool) (scan : CharacterScan) : CharacterScan :=
  ⟨List.replicate count inside ++ scan.inside, scan.openAtEnd⟩

@[simp] theorem after_openAtEnd (count : Nat) (inside : Bool) (scan : CharacterScan) :
    (scan.after count inside).openAtEnd = scan.openAtEnd := rfl

end CharacterScan

/-- Scan a line, inside a comment or outside. A mark is taken as a whole and belongs to the
comment; an opening mark means nothing inside, and a closing mark nothing outside. -/
def scanLine : Bool → Line → CharacterScan
  | inside, [] => ⟨[], inside⟩
  | false, '/' :: '*' :: rest => (scanLine true rest).after 2 true
  | true, '*' :: '/' :: rest => (scanLine false rest).after 2 true
  | inside, _ :: rest => (scanLine inside rest).after 1 inside

def insideAfter (lines : List Line) : Bool :=
  lines.foldl (fun inside line => (scanLine inside line).openAtEnd) false

/-! ## Lines that comment tracking reads rightly -/

def opening : List Char := ['/', '*']

def closing : List Char := ['*', '/']

def places (mark : List Char) (line : Line) : List Nat :=
  (List.range line.length).filter fun place => mark.isPrefixOf (line.drop place)

/-- Each mark occurs at most once, and the closing one does not start before the end of the opening
one. -/
structure WellMarked (line : Line) : Prop where
  openingOnce : (places opening line).length ≤ 1
  closingOnce : (places closing line).length ≤ 1
  inOrder : ∀ start ∈ places opening line, ∀ stop ∈ places closing line, start + 2 ≤ stop

instance (line : Line) : Decidable (WellMarked line) :=
  decidable_of_iff ((places opening line).length ≤ 1 ∧ (places closing line).length ≤ 1 ∧
      ∀ start ∈ places opening line, ∀ stop ∈ places closing line, start + 2 ≤ stop)
    ⟨fun ⟨once, once', order⟩ => ⟨once, once', order⟩, fun ⟨once, once', order⟩ =>
      ⟨once, once', order⟩⟩

theorem mem_places {mark : List Char} {line : Line} {place : Nat} :
    place ∈ places mark line ↔ place < line.length ∧ mark <+: line.drop place := by
  simp [places, List.isPrefixOf_iff_prefix]

theorem succ_mem_places {mark : List Char} {c : Char} {rest : Line} {place : Nat} :
    place + 1 ∈ places mark (c :: rest) ↔ place ∈ places mark rest := by
  simp [mem_places]

theorem exists_mem_places_iff {mark : List Char} (nonempty : mark ≠ []) {line : Line} :
    (∃ place, place ∈ places mark line) ↔ mark <:+: line := by
  induction line with
  | nil => simp [places, nonempty]
  | cons c rest ih =>
      rw [List.infix_cons_iff, ← ih]
      constructor
      · rintro ⟨place, member⟩
        cases place with
        | zero => exact .inl (mem_places.mp member).2
        | succ place => exact .inr ⟨place, succ_mem_places.mp member⟩
      · rintro (here | ⟨place, member⟩)
        · exact ⟨0, mem_places.mpr ⟨by simp, here⟩⟩
        · exact ⟨place + 1, succ_mem_places.mpr member⟩

theorem opensComment_iff (line : Line) : Line.opensComment line = true ↔ opening <:+: line :=
  Text.occursIn_iff_infix _ line

theorem closesComment_iff (line : Line) : Line.closesComment line = true ↔ closing <:+: line :=
  Text.occursIn_iff_infix _ line

/-! ## One line of the character scan -/

theorem scanLine_opening (rest : Line) :
    scanLine false (opening ++ rest) = (scanLine true rest).after 2 true := rfl

theorem scanLine_closing (rest : Line) :
    scanLine true (closing ++ rest) = (scanLine false rest).after 2 true := rfl

theorem scanLine_outside_cons {c : Char} {rest : Line} (noMark : ¬ opening <+: c :: rest) :
    scanLine false (c :: rest) = (scanLine false rest).after 1 false := by
  rw [scanLine]
  · rintro tail - rfl rfl
    exact noMark ⟨tail, rfl⟩
  · rintro tail ⟨⟩

theorem scanLine_inside_cons {c : Char} {rest : Line} (noMark : ¬ closing <+: c :: rest) :
    scanLine true (c :: rest) = (scanLine true rest).after 1 true := by
  rw [scanLine]
  · rintro tail ⟨⟩
  · rintro tail - rfl rfl
    exact noMark ⟨tail, rfl⟩

theorem scanLine_outside {line : Line} (noOpening : ¬ opening <:+: line) :
    scanLine false line = ⟨List.replicate line.length false, false⟩ := by
  induction line with
  | nil => rfl
  | cons c rest ih =>
      rw [List.infix_cons_iff, not_or] at noOpening
      rw [scanLine_outside_cons noOpening.1, ih noOpening.2]
      rfl

theorem scanLine_inside {line : Line} (noClosing : ¬ closing <:+: line) :
    scanLine true line = ⟨List.replicate line.length true, true⟩ := by
  induction line with
  | nil => rfl
  | cons c rest ih =>
      rw [List.infix_cons_iff, not_or] at noClosing
      rw [scanLine_inside_cons noClosing.1, ih noClosing.2]
      rfl

theorem scanLine_opened {line : Line} (hasOpening : opening <:+: line)
    (noClosing : ¬ closing <:+: line) : (scanLine false line).openAtEnd = true := by
  induction line with
  | nil => simp [opening] at hasOpening
  | cons c rest ih =>
      by_cases here : opening <+: c :: rest
      · obtain ⟨tail, same⟩ := here
        rw [← same] at noClosing ⊢
        have noClosing' : ¬ closing <:+: tail := fun found =>
          noClosing (found.trans ((List.suffix_append opening tail).isInfix))
        simp [scanLine_opening, scanLine_inside noClosing']
      · rw [List.infix_cons_iff] at hasOpening noClosing
        rw [scanLine_outside_cons here]
        exact ih (hasOpening.resolve_left here) fun found => noClosing (.inr found)

theorem no_opening_of_closing {line : Line} (here : closing <+: line)
    (inOrder : ∀ start ∈ places opening line, ∀ stop ∈ places closing line, start < stop) :
    ¬ opening <:+: line := by
  rw [← exists_mem_places_iff (by simp [opening])]
  rintro ⟨start, isStart⟩
  have nonempty : 0 < line.length := Nat.zero_lt_of_lt (mem_places.mp isStart).1
  exact Nat.not_lt_zero _ (inOrder start isStart 0 (mem_places.mpr ⟨nonempty, here⟩))

theorem scanLine_closed_inside {line : Line} (hasClosing : closing <:+: line)
    (inOrder : ∀ start ∈ places opening line, ∀ stop ∈ places closing line, start < stop) :
    (scanLine true line).openAtEnd = false := by
  induction line with
  | nil => simp [closing] at hasClosing
  | cons c rest ih =>
      by_cases here : closing <+: c :: rest
      · have noOpening := no_opening_of_closing here inOrder
        obtain ⟨tail, same⟩ := here
        rw [← same] at noOpening ⊢
        have noOpening' : ¬ opening <:+: tail := fun found =>
          noOpening (found.trans (List.suffix_append closing tail).isInfix)
        simp [scanLine_closing, scanLine_outside noOpening']
      · rw [List.infix_cons_iff] at hasClosing
        rw [scanLine_inside_cons here]
        refine ih (hasClosing.resolve_left here) fun start isStart stop isStop => ?_
        exact Nat.lt_of_succ_lt_succ (inOrder (start + 1) (succ_mem_places.mpr isStart) (stop + 1)
          (succ_mem_places.mpr isStop))

theorem scanLine_closed_outside {line : Line} (hasClosing : closing <:+: line)
    (once : ∀ start ∈ places opening line, ∀ start' ∈ places opening line, start = start')
    (inOrder : ∀ start ∈ places opening line, ∀ stop ∈ places closing line, start + 2 ≤ stop) :
    (scanLine false line).openAtEnd = false := by
  induction line with
  | nil => rfl
  | cons c rest ih =>
      by_cases here : opening <+: c :: rest
      · -- The comment that opens here is closed in the tail, and the tail opens no other one.
        have atStart : 0 ∈ places opening (c :: rest) := mem_places.mpr ⟨by simp, here⟩
        obtain ⟨stop, isStop⟩ := (exists_mem_places_iff (by simp [closing])).mpr hasClosing
        obtain ⟨stop, rfl⟩ := Nat.exists_eq_add_of_le' (inOrder 0 atStart stop isStop)
        obtain ⟨tail, same⟩ := here
        obtain ⟨rfl, rfl⟩ := List.cons.inj same
        have hasClosing' : closing <:+: tail := (exists_mem_places_iff (by simp [closing])).mp
          ⟨stop, succ_mem_places.mp (succ_mem_places.mp isStop)⟩
        have noOpening (start : Nat) : start ∉ places opening tail := fun isStart =>
          absurd (once 0 atStart (start + 2) (succ_mem_places.mpr (succ_mem_places.mpr isStart)))
            (by omega)
        rw [← same, scanLine_opening, CharacterScan.after_openAtEnd]
        exact scanLine_closed_inside hasClosing' fun start isStart => absurd isStart (noOpening start)
      · rw [scanLine_outside_cons here]
        by_cases later : closing <:+: rest
        · refine ih later (fun start isStart start' isStart' => ?_) fun start isStart stop isStop => ?_
          · exact Nat.succ.inj (once (start + 1) (succ_mem_places.mpr isStart) (start' + 1)
              (succ_mem_places.mpr isStart'))
          · have := inOrder (start + 1) (succ_mem_places.mpr isStart) (stop + 1)
              (succ_mem_places.mpr isStop)
            omega
        · have atStart := (List.infix_cons_iff.mp hasClosing).resolve_right later
          have noOpening := no_opening_of_closing atStart fun start isStart stop isStop => by
            have := inOrder start isStart stop isStop
            omega
          rw [List.infix_cons_iff, not_or] at noOpening
          simp [scanLine_outside noOpening.2]

/-! ## Tracking and scanning side by side -/

theorem eq_of_mem_places {mark : List Char} {line : Line} (once : (places mark line).length ≤ 1) :
    ∀ start ∈ places mark line, ∀ start' ∈ places mark line, start = start' := by
  intro start isStart start' isStart'
  cases found : places mark line with
  | nil => simp [found] at isStart
  | cons first others =>
      have : others = [] := by simpa [found] using once
      simp_all

theorem openAtEnd_eq_inComment_classify (scan : Scan) {line : Line} (marks : WellMarked line) :
    (scanLine scan.inComment line).openAtEnd = (scan.classify line).2.inComment := by
  rw [Scan.inComment_classify]
  cases closes : Line.closesComment line with
  | true =>
      have hasClosing := (closesComment_iff line).mp closes
      cases scan.inComment with
      | true =>
          refine scanLine_closed_inside hasClosing fun start isStart stop isStop => ?_
          have := marks.inOrder start isStart stop isStop
          omega
      | false =>
          exact scanLine_closed_outside hasClosing (eq_of_mem_places marks.openingOnce) marks.inOrder
  | false =>
      have noClosing : ¬ closing <:+: line := by simp [← closesComment_iff, closes]
      cases scan.inComment with
      | true => simp [scanLine_inside noClosing]
      | false =>
          cases opens : Line.opensComment line with
          | true => exact scanLine_opened ((opensComment_iff line).mp opens) noClosing
          | false =>
              have noOpening : ¬ opening <:+: line := by simp [← opensComment_iff, opens]
              simp [scanLine_outside noOpening]

theorem insideAfter_eq_inComment {lines : List Line} (marks : ∀ line ∈ lines, WellMarked line) :
    insideAfter lines = (Scan.afterLines {} lines).inComment := by
  -- Generalised to any state that the two sides agree on.
  suffices along : ∀ (lines : List Line) (scan : Scan), (∀ line ∈ lines, WellMarked line) →
      lines.foldl (fun inside line => (scanLine inside line).openAtEnd) scan.inComment =
        (lines.foldl (fun scan line => (scan.classify line).2) scan).inComment from
    along lines {} marks
  intro lines
  induction lines with
  | nil => intro scan _; rfl
  | cons line rest ih =>
      intro scan marks
      rw [List.foldl_cons, List.foldl_cons, openAtEnd_eq_inComment_classify scan (marks line (by simp))]
      exact ih _ fun other member => marks other (by simp [member])

theorem scanLine_of_code {scan : Scan} {line : Line} (code : (scan.classify line).1 = .code) :
    scanLine scan.inComment line = ⟨List.replicate line.length false, false⟩ := by
  obtain ⟨-, outside, opens, -⟩ := (Scan.classify_eq_code_iff scan line).mp code
  rw [outside]
  exact scanLine_outside (by simp [← opensComment_iff, opens])

/-- On lines with well-placed marks comment tracking refines the character scan: the two flags agree
after every part of the file, a line inside a comment from its start to its end is a comment line,
and no character of a code line lies in a comment. -/
theorem classify_refines_scanLine (lines : List Line) (marks : ∀ line ∈ lines, WellMarked line) :
    (∀ before, before <+: lines → (Scan.afterLines {} before).inComment = insideAfter before) ∧
    (∀ before line, before ++ [line] <+: lines →
      insideAfter before = true → insideAfter (before ++ [line]) = true →
        ((Scan.afterLines {} before).classify line).1 = .comment) ∧
    (∀ before line, before ++ [line] <+: lines →
      ((Scan.afterLines {} before).classify line).1 = .code →
        (scanLine (insideAfter before) line).inside = List.replicate line.length false) := by
  have agree (before : List Line) (isPrefix : before <+: lines) :
      (Scan.afterLines {} before).inComment = insideAfter before :=
    (insideAfter_eq_inComment fun line member => marks line (isPrefix.subset member)).symm
  refine ⟨agree, ?_, ?_⟩
  · intro before line isPrefix inside _
    rw [← agree before ((List.prefix_append _ _).trans isPrefix)] at inside
    cases kind : ((Scan.afterLines {} before).classify line).1 with
    | comment => rfl
    | code =>
        rw [Scan.classify_eq_code_iff] at kind
        simp [inside] at kind
  · intro before line isPrefix code
    rw [← agree before ((List.prefix_append _ _).trans isPrefix), scanLine_of_code code]

theorem classify_refines_scanLine_nested :
    let lines := ["int x; /* one", "/* two // three", "four */ int y;", "int z;", "*/"].map
      String.toList
    (∀ line ∈ lines, WellMarked line) ∧
    (∀ before, before <+: lines → (Scan.afterLines {} before).inComment = insideAfter before) ∧
    insideAfter (lines.take 1) = true ∧ insideAfter (lines.take 2) = true ∧
    insideAfter lines = false := by
  intro lines
  have marks : ∀ line ∈ lines, WellMarked line := by decide
  exact ⟨marks, (classify_refines_scanLine lines marks).1, by decide, by decide, by decide⟩

end HouseStyle.CommentTracking
