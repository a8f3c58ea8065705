import HouseStyle.Proofs.CommentTracking
import HouseStyle.Proofs.OuterBlanks

namespace HouseStyle.DocumentationWindow
open Text CommentTracking
open Documentation (inspect isMark interfaceWords)

/-! ## The comment in a window -/

def markedPart (lines : List Line) : List Line :=
  (lines.map trim).dropWhile fun line => !isMark line

def ofComment (name : List Char) (comment : List Line) : Documentation :=
  let text := lower ([' '].intercalate comment)
  { found := true
    mentionsName := occursIn (lower name) text
    mentionsInterface := interfaceWords.any fun word => occursIn word text }

/-- The index where the window above the line with this number ends: that of the line itself, 0 for
the number 0, and the number of all lines if there are not so many. -/
def windowEnd (lines : List Line) (number : Nat) : Nat :=
  min (number - 1) lines.length

def window (lines : List Line) (number size : Nat) : List Line :=
  (lines.take (windowEnd lines number)).drop (windowEnd lines number - size)

theorem inspect_eq (lines : List Line) (definition : Definition) (size : Nat) :
    inspect lines definition size =
      if markedPart (window lines definition.line size) = [] then Documentation.none
      else ofComment definition.name (markedPart (window lines definition.line size)) := by
  have above : Documentation.above lines definition.line size =
    (window lines definition.line size).map trim := rfl
  rw [inspect, above, ← markedPart]
  cases markedPart (window lines definition.line size) with
  | nil => rfl
  | cons line rest => rfl

theorem markedPart_eq_nil_iff {lines : List Line} :
    markedPart lines = [] ↔ ∀ line ∈ lines, isMark (trim line) = false := by
  simp [markedPart]

/-! ## Going by indices -/

def slice? (lines : List Line) (start stop : Nat) : Option (List Line) :=
  if start ≤ stop ∧ stop ≤ lines.length then some ((lines.take stop).drop start) else none

/-- The index of the first mark among `count` lines from `index` on, if there is a mark. There is no
answer if a line that is looked at does not exist. -/
def firstMark? (lines : List Line) (index : Nat) : Nat → Option (Option Nat)
  | 0 => some none
  | count + 1 =>
    match lines[index]? with
    | none => none
    | some line =>
      if isMark (trim line) then some (some index) else firstMark? lines (index + 1) count

def inspectAt? (lines : List Line) (definition : Definition) (size : Nat) : Option Documentation :=
  let stop := windowEnd lines definition.line
  let start := stop - size
  match firstMark? lines start (stop - start) with
  | none => none
  | some none => some Documentation.none
  | some (some first) =>
    (slice? lines first stop).map fun comment => ofComment definition.name (comment.map trim)

theorem slice_cons {lines : List Line} {start stop : Nat} {line : Line} (early : start < stop)
    (located : lines[start]? = some line) :
    (lines.take stop).drop start = line :: (lines.take stop).drop (start + 1) := by
  have inTake : (lines.take stop)[start]? = some line := by
    rw [List.getElem?_take_of_lt early, located]
  obtain ⟨inside, isLine⟩ := List.getElem?_eq_some_iff.mp inTake
  rw [List.drop_eq_getElem_cons inside, isLine]

theorem markedPart_cons (line : Line) (rest : List Line) : markedPart (line :: rest) =
    if isMark (trim line) then (line :: rest).map trim else markedPart rest := by
  rw [markedPart, List.map_cons, List.dropWhile_cons, markedPart]
  cases isMark (trim line) <;> rfl

theorem firstMark?_eq {lines : List Line} {index count : Nat}
    (inside : index + count ≤ lines.length) : firstMark? lines index count =
      some (if markedPart ((lines.take (index + count)).drop index) = [] then none
        else some (index + count - (markedPart ((lines.take (index + count)).drop index)).length)) := by
  induction count generalizing index with
  | zero => simp [firstMark?, markedPart]
  | succ count ih =>
      have located : lines[index]? = some lines[index] := List.getElem?_eq_getElem (by omega)
      rw [firstMark?, located, slice_cons (by omega) located, markedPart_cons]
      dsimp only
      split
      · have length : ((lines.take (index + (count + 1))).drop (index + 1)).length = count := by
          rw [List.length_drop, List.length_take_of_le inside]
          omega
        rw [if_neg (by simp), List.length_map, List.length_cons, length, Nat.add_sub_cancel]
      · rw [ih (by omega), Nat.add_assoc, Nat.add_comm 1]

theorem slice?_marked {lines : List Line} {stop : Nat} (inside : stop ≤ lines.length) (start : Nat) :
    (slice? lines (stop - (markedPart ((lines.take stop).drop start)).length) stop).map
      (List.map trim) = some (markedPart ((lines.take stop).drop start)) := by
  have isSuffix : markedPart ((lines.take stop).drop start) <:+ (lines.take stop).map trim :=
    (List.dropWhile_suffix _).trans ((List.drop_suffix start _).map trim)
  rw [List.suffix_iff_eq_drop, List.length_map, List.length_take_of_le inside, ← List.map_drop]
    at isSuffix
  rw [slice?, if_pos ⟨Nat.sub_le .., inside⟩, Option.map_some, ← isSuffix]

theorem inspectAt?_eq (lines : List Line) (definition : Definition) (size : Nat) :
    inspectAt? lines definition size = some (inspect lines definition size) := by
  have inside : windowEnd lines definition.line ≤ lines.length := Nat.min_le_right ..
  have whole := Nat.add_sub_cancel' (Nat.sub_le (windowEnd lines definition.line) size)
  have found := firstMark?_eq (whole.trans_le inside)
  rw [whole, ← window] at found
  rw [inspectAt?, found, inspect_eq]
  by_cases unmarked : markedPart (window lines definition.line size) = []
  · rw [if_pos unmarked, if_pos unmarked]
  · rw [if_neg unmarked, if_neg unmarked]
    have comment := slice?_marked inside (windowEnd lines definition.line - size)
    rw [← window] at comment
    calc (slice? lines _ _).map (ofComment definition.name ∘ List.map trim)
      _ = ((slice? lines _ _).map (List.map trim)).map (ofComment definition.name) :=
        (Option.map_map ..).symm
      _ = some (ofComment definition.name (markedPart (window lines definition.line size))) := by
        rw [comment, Option.map_some]

/-! ## What counts as a comment -/

theorem mem_window_iff {lines : List Line} {number size : Nat} {line : Line} :
    line ∈ window lines number size ↔ ∃ index, windowEnd lines number - size ≤ index ∧
      index < windowEnd lines number ∧ lines[index]? = some line := by
  rw [window, List.mem_iff_getElem?]
  simp only [List.getElem?_drop, List.getElem?_take]
  constructor
  · rintro ⟨offset, located⟩
    split at located
    · exact ⟨_, Nat.le_add_right .., ‹_›, located⟩
    · contradiction
  · rintro ⟨index, late, early, located⟩
    refine ⟨index - (windowEnd lines number - size), ?_⟩
    rw [Nat.add_sub_cancel' late, if_pos early, located]

theorem isMark_trim_iff (line : Line) :
    isMark (trim line) = true ↔ opening <:+: line ∨ ['*'] <+: trim line := by
  rw [isMark, Bool.or_eq_true, Line.opensComment_trim, opensComment_iff, Line.isContinuation,
    List.isPrefixOf_iff_prefix]

theorem found_iff (lines : List Line) (definition : Definition) (size : Nat) :
    (inspect lines definition size).found = true ↔
      ∃ line ∈ window lines definition.line size, isMark (trim line) = true := by
  rw [inspect_eq]
  split
  · rename_i unmarked
    rw [markedPart_eq_nil_iff] at unmarked
    refine iff_of_false Bool.false_ne_true ?_
    rintro ⟨line, member, marked⟩
    rw [unmarked line member] at marked
    contradiction
  · rename_i marked
    rw [markedPart_eq_nil_iff] at marked
    simpa [ofComment] using marked

theorem found_of_mentions {lines : List Line} {definition : Definition} {size : Nat}
    (mentions : (inspect lines definition size).mentionsName = true ∨
      (inspect lines definition size).mentionsInterface = true) :
    (inspect lines definition size).found = true := by
  rw [inspect_eq] at mentions ⊢
  split
  · rename_i unmarked
    rw [if_pos unmarked] at mentions
    simp [Documentation.none] at mentions
  · rfl

/-! ## Larger windows -/

structure Within (less more : Documentation) : Prop where
  found : less.found = true → more.found = true
  mentionsName : less.mentionsName = true → more.mentionsName = true
  mentionsInterface : less.mentionsInterface = true → more.mentionsInterface = true

theorem window_suffix (lines : List Line) (number : Nat) {size larger : Nat} (le : size ≤ larger) :
    window lines number size <:+ window lines number larger :=
  List.drop_suffix_drop_left _ (by omega)

theorem markedPart_suffix {lines lines' : List Line} (isSuffix : lines <:+ lines') :
    markedPart lines <:+ markedPart lines' := by
  obtain ⟨front, rfl⟩ := isSuffix
  induction front with
  | nil => exact List.suffix_refl _
  | cons line front ih =>
      rw [List.cons_append, markedPart_cons]
      split
      · exact (ih.trans (List.dropWhile_suffix _)).trans (List.suffix_cons _ _)
      · exact ih

theorem lower_join_suffix {comment longer : List Line} (isSuffix : comment <:+ longer) :
    lower ([' '].intercalate comment) <:+ lower ([' '].intercalate longer) := by
  induction longer with
  | nil =>
      obtain rfl := List.suffix_nil.mp isSuffix
      exact List.suffix_refl _
  | cons line rest ih =>
      rcases List.suffix_cons_iff.mp isSuffix with rfl | inRest
      · exact List.suffix_refl _
      · cases rest with
        | nil =>
            obtain rfl := List.suffix_nil.mp inRest
            exact List.nil_suffix
        | cons next rest =>
            rw [List.intercalate_cons_cons, List.append_assoc, List.singleton_append,
              lower_append_blank (by decide)]
            exact (ih inRest).trans ((List.suffix_cons _ _).trans (List.suffix_append _ _))

theorem occursIn_of_suffix {pattern text longer : List Char} (isSuffix : text <:+ longer)
    (occurs : occursIn pattern text = true) : occursIn pattern longer = true := by
  have here := (Text.occursIn_iff_infix pattern text).mp occurs
  exact (Text.occursIn_iff_infix pattern longer).mpr (here.trans isSuffix.isInfix)

theorem ofComment_within (name : List Char) {comment longer : List Line}
    (isSuffix : comment <:+ longer) : Within (ofComment name comment) (ofComment name longer) := by
  have words := lower_join_suffix isSuffix
  refine ⟨id, occursIn_of_suffix words, fun mentions => ?_⟩
  obtain ⟨word, isWord, occurs⟩ := List.any_eq_true.mp mentions
  exact List.any_eq_true.mpr ⟨word, isWord, occursIn_of_suffix words occurs⟩

theorem inspect_within (lines : List Line) (definition : Definition) {size larger : Nat}
    (le : size ≤ larger) :
    Within (inspect lines definition size) (inspect lines definition larger) := by
  have isSuffix := markedPart_suffix (window_suffix lines definition.line le)
  rw [inspect_eq, inspect_eq]
  by_cases unmarked : markedPart (window lines definition.line size) = []
  · rw [if_pos unmarked]
    constructor <;> intro impossible <;> contradiction
  · have marked : markedPart (window lines definition.line larger) ≠ [] := by
      intro noMark
      rw [noMark] at isSuffix
      exact unmarked (List.suffix_nil.mp isSuffix)
    rw [if_neg unmarked, if_neg marked]
    exact ofComment_within definition.name isSuffix

/-! ## Inspection as a whole -/

/-- An inspection never looks outside the file, whatever the number of the definition's line. It finds
a comment exactly if one of the lines in the window holds an opening mark or starts with `*`, and
only then it finds more. What it finds, it also finds in every larger window. -/
theorem inspect_total_exact_monotone (lines : List Line) (definition : Definition) (size : Nat) :
    inspectAt? lines definition size = some (inspect lines definition size) ∧
    ((inspect lines definition size).found = true ↔ ∃ index line,
      windowEnd lines definition.line - size ≤ index ∧ index < windowEnd lines definition.line ∧
        lines[index]? = some line ∧ (opening <:+: line ∨ ['*'] <+: trim line)) ∧
    ((inspect lines definition size).mentionsName = true →
      (inspect lines definition size).found = true) ∧
    ((inspect lines definition size).mentionsInterface = true →
      (inspect lines definition size).found = true) ∧
    ∀ larger, size ≤ larger →
      Within (inspect lines definition size) (inspect lines definition larger) := by
  refine ⟨inspectAt?_eq lines definition size, ?_, fun name => found_of_mentions (.inl name),
    fun words => found_of_mentions (.inr words), fun larger => inspect_within lines definition⟩
  rw [found_iff]
  simp only [mem_window_iff, isMark_trim_iff]
  constructor
  · rintro ⟨line, ⟨index, late, early, located⟩, marked⟩
    exact ⟨index, line, late, early, located, marked⟩
  · rintro ⟨index, line, late, early, located, marked⟩
    exact ⟨line, ⟨index, late, early, located⟩, marked⟩

end HouseStyle.DocumentationWindow
