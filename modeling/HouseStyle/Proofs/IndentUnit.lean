import HouseStyle.Proofs.InsertedCheck
import Mathlib.Logic.Function.Iterate

namespace HouseStyle
open Text

/-! ## The unit in a scan -/

namespace Scan

/-- The states that a scan can be in: a fresh one, and what its operations make of it, in any order. -/
inductive Reachable : Scan → Prop where
  | fresh : Reachable {}
  | classify {scan : Scan} (line : Line) (before : Reachable scan) :
      Reachable (scan.classify line).2
  | trackBraces {scan : Scan} (line : Line) (before : Reachable scan) :
      Reachable (scan.trackBraces line).2
  | observeIndent {scan : Scan} (width : Nat) (before : Reachable scan) :
      Reachable (scan.observeIndent width).2

theorem indentUnit_classify (scan : Scan) (line : Line) :
    (scan.classify line).2.indentUnit = scan.indentUnit := by
  rw [classify_frame]

theorem indentUnit_trackBraces (scan : Scan) (line : Line) :
    (scan.trackBraces line).2.indentUnit = scan.indentUnit := rfl

theorem indentUnit_observeIndent (scan : Scan) (width : Nat) :
    (scan.observeIndent width).2.indentUnit = (scan.observeIndent width).1 := rfl

theorem observeIndent_fst (scan : Scan) (width : Nat) : (scan.observeIndent width).1 =
    scan.indentUnit.or (if width = 0 then none else some width) := by
  rw [observeIndent]
  cases scan.indentUnit <;> rfl

theorem Reachable.unit_pos {scan : Scan} (reachable : scan.Reachable) {unit : Nat}
    (established : scan.indentUnit = some unit) : 0 < unit := by
  induction reachable with
  | fresh => contradiction
  | classify line _ ih => exact ih (by rwa [indentUnit_classify] at established)
  | trackBraces line _ ih => exact ih (by rwa [indentUnit_trackBraces] at established)
  | @observeIndent scan width _ ih =>
      rw [indentUnit_observeIndent, observeIndent_fst] at established
      cases before : scan.indentUnit with
      | some earlier => exact ih (by simpa [before] using established)
      | none =>
          rw [before, Option.none_or] at established
          split at established
          · contradiction
          · obtain rfl := Option.some.inj established
            omega

end Scan

namespace IndentationRule

variable {source : Source} {scan : Scan}

/-! ## One line -/

def Relevant (line : Line) : Prop :=
  trim line ≠ [] ∧ ¬ ['/', '/'] <+: trim line ∧ ¬ ['*'] <+: trim line

instance (line : Line) : Decidable (Relevant line) :=
  inferInstanceAs (Decidable (_ ∧ _ ∧ _))

theorem isExempt_iff (line : Line) : isExempt line = true ↔ ¬ Relevant line := by
  simp only [isExempt, Relevant, Line.isLineComment, Line.isContinuation, Bool.or_eq_true,
    decide_eq_true_eq, List.isPrefixOf_iff_prefix]
  tauto

theorem Relevant.not_isExempt {line : Line} (relevant : Relevant line) : ¬ isExempt line = true :=
  fun exempt => (isExempt_iff line).mp exempt relevant

def irregularLine (source : Source) (number width : Nat) (unit : Option Nat) : List Finding :=
  unit.elim [] fun unit => if unit ∣ width then [] else [finding source number unit]

theorem checkFrom_irrelevant {text : Line} (irrelevant : ¬ Relevant text) (number : Nat)
    (rest : List Line) :
    checkFrom source scan number (text :: rest) = checkFrom source scan (number + 1) rest := by
  rw [checkFrom, if_pos ((isExempt_iff text).mpr irrelevant)]

theorem checkFrom_relevant {text : Line} (relevant : Relevant text) (number : Nat)
    (rest : List Line) : checkFrom source scan number (text :: rest) =
      irregularLine source number (indentWidth text) (scan.observeIndent (indentWidth text)).1 ++
        checkFrom source (scan.observeIndent (indentWidth text)).2 (number + 1) rest := by
  rw [checkFrom, if_neg relevant.not_isExempt]
  dsimp only
  rcases scan.observeIndent (indentWidth text) with ⟨_ | unit, next⟩
  · rfl
  · have irregular : (indentWidth text > 0 && indentWidth text % unit ≠ 0) = true ↔
        ¬ unit ∣ indentWidth text := by
      rw [Nat.dvd_iff_mod_eq_zero, Bool.and_eq_true, decide_eq_true_eq, decide_eq_true_eq]
      refine and_iff_right_of_imp fun remains => Nat.pos_of_ne_zero fun zero => remains ?_
      rw [zero, Nat.zero_mod]
    simp only [irregularLine, Option.elim_some]
    split
    · rename_i remains
      rw [if_neg (irregular.mp remains), List.singleton_append]
    · rename_i divides
      rw [if_pos (Decidable.not_not.mp (mt irregular.mpr divides)), List.nil_append]

theorem checkFrom_congr {scan' : Scan} (same : scan.indentUnit = scan'.indentUnit) (number : Nat)
    (lines : List Line) :
    checkFrom source scan number lines = checkFrom source scan' number lines := by
  induction lines generalizing scan scan' number with
  | nil => rfl
  | cons text rest ih =>
      by_cases relevant : Relevant text
      · have noted : (scan.observeIndent (indentWidth text)).1 =
            (scan'.observeIndent (indentWidth text)).1 := by
          rw [Scan.observeIndent_fst, Scan.observeIndent_fst, same]
        have next : (scan.observeIndent (indentWidth text)).2.indentUnit =
            (scan'.observeIndent (indentWidth text)).2.indentUnit := noted
        rw [checkFrom_relevant relevant, checkFrom_relevant relevant, noted, ih next]
      · rw [checkFrom_irrelevant relevant, checkFrom_irrelevant relevant, ih same]

/-! ## Division -/

def remainder? (width unit : Nat) : Option Nat :=
  if unit = 0 then none else some (width % unit)

def irregularLine? (source : Source) (number width : Nat) (unit : Option Nat) :
    Option (List Finding) :=
  match unit with
  | none => some []
  | some unit =>
    if width = 0 then some []
    else (remainder? width unit).map fun remainder =>
      if remainder = 0 then [] else [finding source number unit]

/-- The pass over the lines with every division guarded, and with the braces counted in the same state.
There is no answer if a width is divided by 0. -/
def guardedFrom? (source : Source) (scan : Scan) (number : Nat) : List Line → Option (List Finding)
  | [] => some []
  | text :: rest =>
    if isExempt text then guardedFrom? source scan (number + 1) rest
    else
      let noted := scan.observeIndent (indentWidth text)
      (irregularLine? source number (indentWidth text) noted.1).bind fun here =>
        (guardedFrom? source (noted.2.trackBraces (trim text)).2 (number + 1) rest).map (here ++ ·)

theorem irregularLine?_eq {unit : Option Nat} (positive : ∀ value, unit = some value → 0 < value)
    (source : Source) (number width : Nat) :
    irregularLine? source number width unit = some (irregularLine source number width unit) := by
  cases unit with
  | none => rfl
  | some unit =>
      have nonzero : unit ≠ 0 := Nat.ne_of_gt (positive unit rfl)
      rw [irregularLine?, remainder?, if_neg nonzero, Option.map_some, irregularLine,
        Option.elim_some]
      by_cases zero : width = 0
      · simp [zero]
      · simp [zero, Nat.dvd_iff_mod_eq_zero]

theorem guardedFrom?_eq (reachable : scan.Reachable) (number : Nat) (lines : List Line) :
    guardedFrom? source scan number lines = some (checkFrom source scan number lines) := by
  -- Induction on the lines: every state that the pass comes to is reachable, so its unit is not 0.
  induction lines generalizing scan number with
  | nil => rfl
  | cons text rest ih =>
      rw [guardedFrom?]
      by_cases relevant : Relevant text
      · have noted := reachable.observeIndent (indentWidth text)
        have counted := noted.trackBraces (trim text)
        have braces : checkFrom source
            ((scan.observeIndent (indentWidth text)).2.trackBraces (trim text)).2 (number + 1) rest =
              checkFrom source (scan.observeIndent (indentWidth text)).2 (number + 1) rest :=
          checkFrom_congr (Scan.indentUnit_trackBraces _ _) _ _
        have here := irregularLine?_eq (fun _ => noted.unit_pos) source number (indentWidth text)
        rw [Scan.indentUnit_observeIndent] at here
        rw [if_neg relevant.not_isExempt, checkFrom_relevant relevant, ← braces]
        dsimp only
        rw [here, Option.bind_some, ih counted, Option.map_some]
      · rw [if_pos ((isExempt_iff text).mpr relevant), ih reachable, checkFrom_irrelevant relevant]

/-! ## The closed form -/

def irregular (source : Source) (unit start : Nat) (lines : List Line) : List Finding :=
  ((lines.zipIdx start).filter fun entry =>
    Relevant entry.1 ∧ ¬ unit ∣ indentWidth entry.1).map fun entry => finding source entry.2 unit

def SetsUnit (line : Line) : Prop :=
  Relevant line ∧ indentWidth line ≠ 0

instance (line : Line) : Decidable (SetsUnit line) :=
  inferInstanceAs (Decidable (_ ∧ _))

theorem not_setsUnit_iff {line : Line} :
    ¬ SetsUnit line ↔ (Relevant line → indentWidth line = 0) :=
  not_and_not_right

theorem irregular_cons (unit start : Nat) (text : Line) (rest : List Line) :
    irregular source unit start (text :: rest) =
      (if Relevant text ∧ ¬ unit ∣ indentWidth text then [finding source start unit] else []) ++
        irregular source unit (start + 1) rest := by
  rw [irregular, List.zipIdx_cons, List.filter_cons]
  simp only [decide_eq_true_eq]
  split <;> rfl

theorem irregular_append (unit start : Nat) (lines more : List Line) :
    irregular source unit start (lines ++ more) =
      irregular source unit start lines ++ irregular source unit (start + lines.length) more := by
  rw [irregular, List.zipIdx_append, List.filter_append, List.map_append]
  rfl

theorem checkFrom_established {unit : Nat} (established : scan.indentUnit = some unit) (start : Nat)
    (lines : List Line) : checkFrom source scan start lines = irregular source unit start lines := by
  induction lines generalizing scan start with
  | nil => rfl
  | cons text rest ih =>
      rw [irregular_cons]
      by_cases relevant : Relevant text
      · have kept : (scan.observeIndent (indentWidth text)).1 = some unit := by
          rw [Scan.observeIndent_fst, established, Option.some_or]
        rw [checkFrom_relevant relevant, kept, ih kept]
        by_cases divides : unit ∣ indentWidth text <;> simp [irregularLine, relevant, divides]
      · rw [checkFrom_irrelevant relevant, ih established, if_neg fun both => relevant both.1,
          List.nil_append]

theorem irregular_eq_nil {unit : Nat} {lines : List Line}
    (regular : ∀ line ∈ lines, Relevant line → unit ∣ indentWidth line) (start : Nat) :
    irregular source unit start lines = [] := by
  induction lines generalizing start with
  | nil => rfl
  | cons text rest ih =>
      obtain ⟨here, later⟩ := List.forall_mem_cons.mp regular
      rw [irregular_cons, if_neg fun both => both.2 (here both.1), ih later, List.nil_append]

theorem le_line_of_mem_irregular {unit start : Nat} {lines : List Line} {found : Finding}
    (member : found ∈ irregular source unit start lines) : start ≤ found.location.line := by
  obtain ⟨entry, kept, rfl⟩ := List.mem_map.mp member
  exact List.le_snd_of_mem_zipIdx (List.mem_filter.mp kept).1

theorem checkFrom_skip (unset : scan.indentUnit = none) {text : Line} (passes : ¬ SetsUnit text)
    (start : Nat) (rest : List Line) :
    checkFrom source scan start (text :: rest) = checkFrom source scan (start + 1) rest := by
  by_cases relevant : Relevant text
  · have flat : indentWidth text = 0 := not_setsUnit_iff.mp passes relevant
    have noted : (scan.observeIndent (indentWidth text)).1 = none := by
      rw [Scan.observeIndent_fst, unset, Option.none_or, if_pos flat]
    rw [checkFrom_relevant relevant, noted]
    exact checkFrom_congr (noted.trans unset.symm) _ _
  · exact checkFrom_irrelevant relevant start rest

theorem checkFrom_unset (unset : scan.indentUnit = none) (start : Nat) (lines : List Line) :
    checkFrom source scan start lines = (lines.find? (SetsUnit ·)).elim [] fun line =>
      irregular source (indentWidth line) start lines := by
  -- Induction on the lines: the line that sets the unit is a multiple of it, and a line before it is
  -- a multiple of every unit or does not count.
  induction lines generalizing start with
  | nil => rfl
  | cons text rest ih =>
      by_cases sets : SetsUnit text
      · have noted : (scan.observeIndent (indentWidth text)).1 = some (indentWidth text) := by
          rw [Scan.observeIndent_fst, unset, Option.none_or, if_neg sets.2]
        rw [List.find?_cons_of_pos (by simpa using sets), Option.elim_some, irregular_cons,
          checkFrom_relevant sets.1, noted, checkFrom_established noted]
        simp [irregularLine]
      · have regular (unit : Nat) : ¬ (Relevant text ∧ ¬ unit ∣ indentWidth text) := by
          rintro ⟨relevant, remains⟩
          rw [not_setsUnit_iff.mp sets relevant] at remains
          exact remains (Nat.dvd_zero unit)
        simp only [checkFrom_skip unset sets, ih, irregular_cons, if_neg (regular _), List.nil_append]
        rw [List.find?_cons_of_neg (by simpa using sets)]

theorem check_eq (path : Path) (lines : List Line) :
    check ⟨path, lines⟩ = (lines.find? (SetsUnit ·)).elim [] fun line =>
      irregular ⟨path, lines⟩ (indentWidth line) 1 lines :=
  checkFrom_unset rfl 1 lines

theorem check_of_setsUnit {before : List Line} {line : Line} (path : Path)
    (flat : ∀ earlier ∈ before, Relevant earlier → indentWidth earlier = 0) (sets : SetsUnit line)
    (after : List Line) : check ⟨path, before ++ line :: after⟩ =
      irregular ⟨path, before ++ line :: after⟩ (indentWidth line) 1 (before ++ line :: after) := by
  have first : (before ++ line :: after).find? (SetsUnit ·) = some line := by
    rw [List.find?_append, List.find?_eq_none.mpr, Option.none_or,
      List.find?_cons_of_pos (by simpa using sets)]
    intro earlier member
    simpa using not_setsUnit_iff.mpr (flat earlier member)
  rw [check_eq, first, Option.elim_some]

theorem lt_line_of_mem_check {before : List Line} {line : Line} (path : Path)
    (flat : ∀ earlier ∈ before, Relevant earlier → indentWidth earlier = 0) (sets : SetsUnit line)
    {after : List Line} {found : Finding} (member : found ∈ check ⟨path, before ++ line :: after⟩) :
    before.length + 1 < found.location.line := by
  rw [check_of_setsUnit path flat sets, irregular_append, irregular_eq_nil, irregular_cons,
    if_neg fun both => both.2 (Nat.dvd_refl _), List.nil_append, List.nil_append] at member
  · have := le_line_of_mem_irregular member
    omega
  · intro earlier isEarlier relevant
    rw [flat earlier isEarlier relevant]
    exact Nat.dvd_zero _

/-! ## More lines -/

theorem check_prefix (path : Path) (lines more : List Line) :
    check ⟨path, lines⟩ <+: check ⟨path, lines ++ more⟩ := by
  rw [check_eq, check_eq, List.find?_append]
  cases lines.find? (SetsUnit ·) with
  | none => exact List.nil_prefix
  | some line =>
      rw [Option.some_or, Option.elim_some, Option.elim_some, irregular_append]
      exact List.prefix_append _ _

theorem map_irregular {change : Finding → Finding} {unit start start' : Nat} {lines : List Line}
    (moves : ∀ offset < lines.length,
      change (finding source (start + offset) unit) = finding source (start' + offset) unit) :
    (irregular source unit start lines).map change = irregular source unit start' lines := by
  induction lines generalizing start start' with
  | nil => rfl
  | cons text rest ih =>
      have here := moves 0 (Nat.succ_pos _)
      rw [Nat.add_zero, Nat.add_zero] at here
      have later : (irregular source unit (start + 1) rest).map change =
          irregular source unit (start' + 1) rest := by
        refine ih fun offset inRest => ?_
        rw [Nat.add_right_comm, Nat.add_right_comm start']
        exact moves (offset + 1) (Nat.succ_lt_succ inRest)
      rw [irregular_cons, irregular_cons, List.map_append, later]
      split
      · rw [List.map_singleton, here]
      · rfl

theorem check_insert {inserted : Line} (irrelevant : ¬ Relevant inserted) (path : Path)
    (before after : List Line) : check ⟨path, before ++ inserted :: after⟩ =
      (check ⟨path, before ++ after⟩).map (Finding.pushed before.length) := by
  have passes : ¬ SetsUnit inserted := fun sets => irrelevant sets.1
  have sameUnit : (before ++ inserted :: after).find? (SetsUnit ·) =
      (before ++ after).find? (SetsUnit ·) := by
    rw [List.find?_append, List.find?_cons_of_neg (by simpa using passes), List.find?_append]
  rw [check_eq, check_eq, sameUnit]
  cases (before ++ after).find? (SetsUnit ·) with
  | none => rfl
  | some line =>
      have above (unit : Nat) : (irregular ⟨path, before ++ after⟩ unit 1 before).map
          (Finding.pushed before.length) = irregular ⟨path, before ++ after⟩ unit 1 before :=
        map_irregular fun offset early => if_neg (show ¬ before.length < 1 + offset by omega)
      have below (unit : Nat) :
          (irregular ⟨path, before ++ after⟩ unit (1 + before.length) after).map
            (Finding.pushed before.length) =
              irregular ⟨path, before ++ after⟩ unit (1 + before.length + 1) after := by
        refine map_irregular fun offset _ => ?_
        rw [Nat.add_right_comm (1 + before.length) 1]
        exact if_pos (show before.length < 1 + before.length + offset by omega)
      rw [Option.elim_some, Option.elim_some, irregular_append, irregular_append, irregular_cons,
        if_neg fun both => irrelevant both.1, List.nil_append, List.map_append, above, below]
      rfl

theorem check_insert_all {inserted : List Line} (irrelevant : ∀ line ∈ inserted, ¬ Relevant line)
    (path : Path) (before after : List Line) : check ⟨path, before ++ (inserted ++ after)⟩ =
      (check ⟨path, before ++ after⟩).map (Finding.pushed before.length)^[inserted.length] := by
  induction inserted with
  | nil => exact (List.map_id _).symm
  | cons line inserted ih =>
      rw [List.cons_append, check_insert (irrelevant line List.mem_cons_self),
        ih fun other member => irrelevant other (List.mem_cons_of_mem _ member), List.map_map,
        List.length_cons, Function.iterate_succ']

/-! ## The verdict -/

/-- Without an indented line that counts nothing is reported. Otherwise the first such line sets the
unit, and what is reported are the relevant lines, in their order and once each, that are not indented
by a multiple of it. They all stand below the line that sets the unit. No width is ever divided by 0,
since no state of the scan has the unit 0. Lines that are appended only add findings at the end, and
irrelevant lines that are put in, or taken out again, only push the findings below them. -/
theorem check_exact (path : Path) (lines : List Line) :
    ((∀ line ∈ lines, Relevant line → indentWidth line = 0) → check ⟨path, lines⟩ = []) ∧
    (∀ before line after, lines = before ++ line :: after →
      (∀ earlier ∈ before, Relevant earlier → indentWidth earlier = 0) → Relevant line →
      indentWidth line ≠ 0 →
        check ⟨path, lines⟩ = ((lines.zipIdx 1).filter fun entry =>
            Relevant entry.1 ∧ ¬ indentWidth line ∣ indentWidth entry.1).map (fun entry =>
          finding ⟨path, lines⟩ entry.2 (indentWidth line)) ∧
        ∀ finding ∈ check ⟨path, lines⟩, before.length + 1 < finding.location.line) ∧
    guardedFrom? ⟨path, lines⟩ {} 1 lines = some (check ⟨path, lines⟩) ∧
    (∀ scan : Scan, scan.Reachable → ∀ unit, scan.indentUnit = some unit → 0 < unit) ∧
    (∀ more, check ⟨path, lines⟩ <+: check ⟨path, lines ++ more⟩) ∧
    ∀ before inserted after, lines = before ++ (inserted ++ after) →
      (∀ line ∈ inserted, ¬ Relevant line) →
        check ⟨path, lines⟩ =
          (check ⟨path, before ++ after⟩).map (Finding.pushed before.length)^[inserted.length] := by
  refine ⟨?_, ?_, guardedFrom?_eq .fresh 1 lines, fun scan reachable unit => reachable.unit_pos,
    check_prefix path lines, ?_⟩
  · intro flat
    have none : lines.find? (SetsUnit ·) = none := List.find?_eq_none.mpr fun line member =>
      by simpa using not_setsUnit_iff.mpr (flat line member)
    rw [check_eq, none, Option.elim_none]
  · rintro before line after rfl flat relevant indented
    exact ⟨check_of_setsUnit path flat ⟨relevant, indented⟩ after,
      fun found => lt_line_of_mem_check path flat ⟨relevant, indented⟩⟩
  · rintro before inserted after rfl irrelevant
    exact check_insert_all irrelevant path before after

theorem check_exact_three :
    let before := ["void f() \x7b", "  // note"].map String.toList
    let line := "   a();".toList
    let after := ["      b();", "    c();", "\x7d"].map String.toList
    (∀ earlier ∈ before, Relevant earlier → indentWidth earlier = 0) ∧ Relevant line ∧
    indentWidth line ≠ 0 ∧
    (∀ finding ∈ check ⟨"a.c", before ++ line :: after⟩, before.length + 1 < finding.location.line) ∧
    check ⟨"a.c", before ++ line :: after⟩ =
      [⟨.indentation, ⟨"a.c", 5⟩, "Inconsistent indentation (expected multiple of 3)"⟩] := by
  intro before line after
  have flat : ∀ earlier ∈ before, Relevant earlier → indentWidth earlier = 0 := by decide +kernel
  have relevant : Relevant line := by decide +kernel
  have indented : indentWidth line ≠ 0 := by decide +kernel
  have verdict := (check_exact "a.c" (before ++ line :: after)).2.1 before line after rfl flat relevant
    indented
  exact ⟨flat, relevant, indented, verdict.2, by decide +kernel⟩

end IndentationRule
end HouseStyle
