import HouseStyle.Proofs.CommentTracking
import HouseStyle.Proofs.LetterCase
import HouseStyle.Rule.Header
import Mathlib.Data.List.Forall2

namespace HouseStyle.HeaderRule
open Text CommentTracking

variable {rule : HeaderRule} {path : Path}

/-! ## Fields -/

def Lacks (lines : List Line) (field : String) : Prop :=
  ∀ line ∈ lines, ¬ OccursUpToCase field.toList line

instance (lines : List Line) (field : String) : Decidable (Lacks lines field) :=
  inferInstanceAs (Decidable (∀ line ∈ lines, _))

theorem lower_field {field : String} (isField : field ∈ requiredFields) :
    lower field.toList = field.toList.map Char.toLower := by
  have table : ∀ field ∈ requiredFields,
      lower field.toList = field.toList.map Char.toLower := by decide +kernel
  exact table field isField

theorem isPlainWord_field {field : String} (isField : field ∈ requiredFields) :
    IsPlainWord (field.toList.map Char.toLower) := by
  have letters : ∀ field ∈ requiredFields,
      (field.toList.map Char.toLower).all (fun c => decide (IsPlain c)) = true := by decide +kernel
  have final : ∀ field ∈ requiredFields,
      (field.toList.map Char.toLower).getLast? ≠ some 'i' := by decide +kernel
  exact ⟨by simpa using letters field isField, final field isField⟩

theorem not_hasField_eq {field : String} (isField : field ∈ requiredFields) (lines : List Line) :
    (!hasField lines field) = decide (Lacks lines field) := by
  rw [Bool.eq_iff_iff, decide_eq_true_eq, Bool.not_eq_true', hasField, List.any_eq_false, Lacks]
  refine forall₂_congr fun line _ => not_congr ?_
  rw [lower_field isField, occursIn_lower_iff (isPlainWord_field isField)]

def lackingFields (source : Source) (header : List Line) : List Finding :=
  (requiredFields.filter fun field => Lacks header field).map fun field =>
    finding source ("Header missing '" ++ field ++ "' field")

theorem check_eq (lines : List Line) : rule.check ⟨path, lines⟩ =
    ((lines.take rule.scanLines).findIdx? Line.opensComment).elim
      [finding ⟨path, lines⟩ "Missing file header comment"] fun opener =>
        lackingFields ⟨path, lines⟩ ((lines.drop opener).take rule.window) := by
  rw [check]
  cases (lines.take rule.scanLines).findIdx? Line.opensComment with
  | none => rfl
  | some opener =>
      dsimp only [Option.elim_some]
      rw [lackingFields, List.filter_congr fun field isField => not_hasField_eq isField _]

/-! ## The two verdicts -/

theorem findIdx?_opensComment_eq_none {lines : List Line}
    (unopened : ∀ line ∈ lines, ¬ opening <:+: line) : lines.findIdx? Line.opensComment = none := by
  rw [List.findIdx?_eq_none_iff]
  intro line member
  rw [← Bool.not_eq_true, opensComment_iff]
  exact unopened line member

theorem check_of_unopened {lines : List Line}
    (unopened : ∀ line ∈ lines.take rule.scanLines, ¬ opening <:+: line) :
    rule.check ⟨path, lines⟩ = [finding ⟨path, lines⟩ "Missing file header comment"] := by
  rw [check_eq, findIdx?_opensComment_eq_none unopened, Option.elim_none]

theorem check_of_opener {before after : List Line} {opener : Line}
    (early : before.length < rule.scanLines) (first : ∀ line ∈ before, ¬ opening <:+: line)
    (opens : opening <:+: opener) : rule.check ⟨path, before ++ opener :: after⟩ =
      lackingFields ⟨path, before ++ opener :: after⟩ ((opener :: after).take rule.window) := by
  obtain ⟨more, limit⟩ : ∃ more, rule.scanLines = before.length + (more + 1) :=
    ⟨rule.scanLines - before.length - 1, by omega⟩
  have found : ((before ++ opener :: after).take rule.scanLines).findIdx? Line.opensComment =
      some before.length := by
    rw [limit, List.take_length_add_append, List.take_succ_cons, List.findIdx?_append,
      findIdx?_opensComment_eq_none first, Option.none_or, List.findIdx?_cons,
      if_pos ((opensComment_iff opener).mpr opens), Option.map_some, Nat.zero_add]
  rw [check_eq, found, Option.elim_some, List.drop_left]

theorem exists_opener {lines : List Line} {limit : Nat}
    (opened : ¬ ∀ line ∈ lines.take limit, ¬ opening <:+: line) :
    ∃ before opener after, lines = before ++ opener :: after ∧ before.length < limit ∧
      (∀ line ∈ before, ¬ opening <:+: line) ∧ opening <:+: opener := by
  cases found : (lines.take limit).find? Line.opensComment with
  | none =>
      refine absurd (fun line member => ?_) opened
      rw [← opensComment_iff]
      exact List.find?_eq_none.mp found line member
  | some opener =>
      obtain ⟨opens, before, others, parts, first⟩ := List.find?_eq_some_iff_append.mp found
      refine ⟨before, opener, others ++ lines.drop limit, ?_, ?_, fun line member => ?_, ?_⟩
      · rw [← List.cons_append, ← List.append_assoc, ← parts, List.take_append_drop]
      · have shorter := List.length_take_le limit lines
        rw [parts, List.length_append, List.length_cons] at shorter
        omega
      · rw [← opensComment_iff, Bool.not_eq_true, ← Bool.not_eq_true']
        exact first line member
      · exact (opensComment_iff opener).mp opens

theorem check_eq_missing_iff (lines : List Line) :
    rule.check ⟨path, lines⟩ = [finding ⟨path, lines⟩ "Missing file header comment"] ↔
      ∀ line ∈ lines.take rule.scanLines, ¬ opening <:+: line := by
  refine ⟨fun missing => by_contra fun opened => ?_, check_of_unopened⟩
  obtain ⟨before, opener, after, rfl, early, first, opens⟩ := exists_opener opened
  have texts : ∀ field ∈ requiredFields,
      "Header missing '" ++ field ++ "' field" ≠ "Missing file header comment" := by decide +kernel
  have member := List.mem_singleton_self
    (finding ⟨path, before ++ opener :: after⟩ "Missing file header comment")
  rw [← missing, check_of_opener early first opens] at member
  obtain ⟨field, isLacking, same⟩ := List.mem_map.mp member
  exact texts field (List.mem_filter.mp isLacking).1 (congrArg Finding.message same)

/-! ## The top of a file -/

theorem check_take (lines : List Line) :
    rule.check ⟨path, lines.take (rule.scanLines + rule.window)⟩ = rule.check ⟨path, lines⟩ := by
  rw [check_eq, check_eq, List.take_take, Nat.min_eq_left (Nat.le_add_right ..)]
  cases found : (lines.take rule.scanLines).findIdx? Line.opensComment with
  | none => rfl
  | some opener =>
      have early : opener < rule.scanLines :=
        ((List.findIdx?_eq_some_iff_findIdx_eq.mp found).1).trans_le (List.length_take_le ..)
      rw [Option.elim_some, Option.elim_some, List.take_drop, List.take_take,
        Nat.min_eq_left (by omega), ← List.take_drop]
      rfl

theorem map_eq_of_forall₂ {α : Type} {R : Line → Line → Prop} {lines lines' : List Line}
    (alike : List.Forall₂ R lines lines') {value : Line → α}
    (same : ∀ line line', R line line' → value line = value line') :
    lines.map value = lines'.map value := by
  induction alike with
  | nil => rfl
  | cons related _ ih => rw [List.map_cons, List.map_cons, same _ _ related, ih]

theorem opensComment_congr {line line' : Line} (same : SameUpToCase line line') :
    Line.opensComment line = Line.opensComment line' := by
  have marks : ∀ sign ∈ opening, sign.toNat < 0x41 := by simp [opening]
  rw [Bool.eq_iff_iff, opensComment_iff, opensComment_iff, ← occursUpToCase_iff_infix marks,
    ← occursUpToCase_iff_infix marks, same.occursUpToCase_iff]

theorem lacks_congr {lines lines' : List Line} (alike : List.Forall₂ SameUpToCase lines lines')
    (field : String) : Lacks lines field ↔ Lacks lines' field := by
  induction alike with
  | nil => rfl
  | cons same _ ih =>
      rw [Lacks, List.forall_mem_cons, same.occursUpToCase_iff, ← Lacks, ih, Lacks, Lacks,
        List.forall_mem_cons]

theorem check_congr {lines lines' : List Line} (alike : List.Forall₂ SameUpToCase lines lines') :
    rule.check ⟨path, lines⟩ = rule.check ⟨path, lines'⟩ := by
  have sameOpener : (lines.take rule.scanLines).findIdx? Line.opensComment =
      (lines'.take rule.scanLines).findIdx? Line.opensComment := by
    have sameMarks := map_eq_of_forall₂ (List.forall₂_take rule.scanLines alike)
      fun _ _ => opensComment_congr
    have marked (lines : List Line) : lines.findIdx? Line.opensComment =
        (lines.map Line.opensComment).findIdx? id := by rw [List.findIdx?_map, Function.id_comp]
    rw [marked, sameMarks, ← marked]
  rw [check_eq, check_eq, sameOpener]
  cases (lines'.take rule.scanLines).findIdx? Line.opensComment with
  | none => rfl
  | some opener =>
      have header := List.forall₂_take rule.window (List.forall₂_drop opener alike)
      simp only [Option.elim_some, lackingFields, lacks_congr header]
      rfl

/-! ## The verdict -/

/-- Two files have the same verdict if the lines at their tops, as many as both limits together, are
the same up to the case of ASCII letters. The verdict is that the header is missing, exactly if no
opening mark stands on the first lines, or else it names the fields, in their order, that stand on none
of the lines of the window from the first opening mark on, whatever their case. -/
theorem check_exact_upToCase (rule : HeaderRule) (path : Path) (lines : List Line) :
    (∀ lines', List.Forall₂ SameUpToCase (lines.take (rule.scanLines + rule.window))
        (lines'.take (rule.scanLines + rule.window)) →
      rule.check ⟨path, lines⟩ = rule.check ⟨path, lines'⟩) ∧
    (rule.check ⟨path, lines⟩ = [finding ⟨path, lines⟩ "Missing file header comment"] ↔
      ∀ line ∈ lines.take rule.scanLines, ¬ opening <:+: line) ∧
    (rule.check ⟨path, lines⟩ = [finding ⟨path, lines⟩ "Missing file header comment"] ∨
      ∃ before opener after, lines = before ++ opener :: after ∧ before.length < rule.scanLines ∧
        (∀ line ∈ before, ¬ opening <:+: line) ∧ opening <:+: opener ∧
        rule.check ⟨path, lines⟩ = (["File:", "Author:", "Purpose:"].filter fun field =>
            ∀ line ∈ (opener :: after).take rule.window,
              ¬ OccursUpToCase field.toList line).map fun field =>
          finding ⟨path, lines⟩ ("Header missing '" ++ field ++ "' field")) := by
  refine ⟨fun lines' alike => ?_, check_eq_missing_iff lines, ?_⟩
  · rw [← check_take, check_congr alike, check_take]
  · by_cases unopened : ∀ line ∈ lines.take rule.scanLines, ¬ opening <:+: line
    · exact .inl (check_of_unopened unopened)
    · obtain ⟨before, opener, after, rfl, early, first, opens⟩ := exists_opener unopened
      exact .inr ⟨before, opener, after, rfl, early, first, opens, check_of_opener early first opens⟩

theorem check_exact_upToCase_greek :
    let rule : HeaderRule := ⟨1, 1⟩
    let lines := ["/* FILE: ΟΔΟΣa, autİhor:", "Purpose:", "first"].map String.toList
    let lines' := ["/* file: ΟΔΟΣA, AUTİHOR:", "PURPOSE:"].map String.toList
    List.Forall₂ SameUpToCase (lines.take 2) (lines'.take 2) ∧
    rule.check ⟨"a.c", lines⟩ = rule.check ⟨"a.c", lines'⟩ ∧
    rule.check ⟨"a.c", lines'⟩ = [finding ⟨"a.c", lines'⟩ "Header missing 'Author:' field",
      finding ⟨"a.c", lines'⟩ "Header missing 'Purpose:' field"] := by
  intro rule lines lines'
  have alike : List.Forall₂ SameUpToCase (lines.take 2) (lines'.take 2) :=
    .cons (by decide +kernel) (.cons (by decide +kernel) .nil)
  exact ⟨alike, (check_exact_upToCase rule "a.c" lines).1 lines' alike, by decide +kernel⟩

end HouseStyle.HeaderRule
