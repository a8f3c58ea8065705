import HouseStyle.Proofs.Text
import HouseStyle.Text.Lower

namespace HouseStyle.Text

variable {before after : List Char} (blankBefore : ∀ c ∈ before, isBlank c = true)
  (blankAfter : ∀ c ∈ after, isBlank c = true)

/-! ## Trimming -/

theorem exists_around_trim (text : List Char) : ∃ before after,
    (∀ c ∈ before, isBlank c = true) ∧ (∀ c ∈ after, isBlank c = true) ∧
      text = before ++ (trim text ++ after) := by
  refine ⟨text.takeWhile isBlank, ((trimStart text).reverse.takeWhile isBlank).reverse,
    fun c => List.mem_takeWhile_imp, fun c member => ?_, ?_⟩
  · exact List.mem_takeWhile_imp (List.mem_reverse.mp member)
  · rw [trim, trimEnd, ← List.reverse_append, List.takeWhile_append_dropWhile, List.reverse_reverse,
      trimStart, List.takeWhile_append_dropWhile]

include blankBefore blankAfter in
theorem trim_around (text : List Char) : trim (before ++ (text ++ after)) = trim text := by
  rw [trim, trim, trimStart, trimStart, List.dropWhile_append_of_pos blankBefore,
    List.dropWhile_append]
  split
  · rename_i allBlank
    rw [List.isEmpty_iff] at allBlank
    rw [allBlank, List.dropWhile_eq_nil_iff.mpr blankAfter]
  · rw [trimEnd, List.reverse_append, List.dropWhile_append_of_pos (by simpa using blankAfter),
      trimEnd]

theorem trim_trim (text : List Char) : trim (trim text) = trim text := by
  obtain ⟨before, after, blankBefore, blankAfter, around⟩ := exists_around_trim text
  rw [← trim_around blankBefore blankAfter (trim text), ← around]

theorem notMem_blanks {blanks : List Char} (blank : ∀ c ∈ blanks, isBlank c = true) {c : Char}
    (notBlank : isBlank c = false) : c ∉ blanks := by
  intro member
  rw [blank c member] at notBlank
  contradiction

theorem mem_trim_iff {c : Char} (notBlank : isBlank c = false) (text : List Char) :
    c ∈ trim text ↔ c ∈ text := by
  obtain ⟨before, after, blankBefore, blankAfter, around⟩ := exists_around_trim text
  constructor
  · intro member
    rw [around]
    simp [member]
  · intro member
    rw [around] at member
    simpa [notMem_blanks blankBefore notBlank, notMem_blanks blankAfter notBlank] using member

/-! ## Finding -/

def isSolid (text : List Char) : Bool :=
  text.head?.any (!isBlank ·) && text.getLast?.any (!isBlank ·)

theorem isSolid_iff {text : List Char} : isSolid text = true ↔
    (∃ first rest, text = first :: rest ∧ isBlank first = false) ∧
    ∃ front last, text = front ++ [last] ∧ isBlank last = false := by
  simp only [isSolid, Bool.and_eq_true, Option.any_eq_true, List.head?_eq_some_iff,
    List.getLast?_eq_some_iff, Bool.not_eq_true']
  constructor
  · rintro ⟨⟨first, ⟨rest, starts⟩, noBlank⟩, last, ⟨front, ends⟩, noBlank'⟩
    exact ⟨⟨first, rest, starts, noBlank⟩, front, last, ends, noBlank'⟩
  · rintro ⟨⟨first, rest, starts, noBlank⟩, front, last, ends, noBlank'⟩
    exact ⟨⟨first, ⟨rest, starts⟩, noBlank⟩, last, ⟨front, ends⟩, noBlank'⟩

theorem infix_append_iff {first : Char} {rest front text : List Char} (outside : first ∉ front) :
    first :: rest <:+: front ++ text ↔ first :: rest <:+: text := by
  induction front with
  | nil => rfl
  | cons c front ih =>
      rw [List.mem_cons, not_or] at outside
      have notHere : ¬ first :: rest <+: c :: (front ++ text) := fun here =>
        outside.1 (List.cons_prefix_cons.mp here).1
      rw [List.cons_append, List.infix_cons_iff, or_iff_right notHere, ih outside.2]

theorem infix_append_right_iff {last : Char} {rest text back : List Char} (outside : last ∉ back) :
    rest ++ [last] <:+: text ++ back ↔ rest ++ [last] <:+: text := by
  calc rest ++ [last] <:+: text ++ back
    _ ↔ (rest ++ [last]).reverse <:+: (text ++ back).reverse := List.reverse_infix.symm
    _ ↔ (rest ++ [last]).reverse <:+: text.reverse := by
      rw [List.reverse_append, List.reverse_append, List.reverse_singleton, List.singleton_append]
      exact infix_append_iff (by simpa using outside)
    _ ↔ rest ++ [last] <:+: text := List.reverse_infix

include blankBefore blankAfter in
theorem occursIn_around {pattern : List Char} (solid : isSolid pattern = true) (text : List Char) :
    occursIn pattern (before ++ (text ++ after)) = occursIn pattern text := by
  obtain ⟨⟨first, rest, starts, firstSolid⟩, front, last, ends, lastSolid⟩ := isSolid_iff.mp solid
  rw [Bool.eq_iff_iff, occursIn_iff_infix, occursIn_iff_infix]
  calc pattern <:+: before ++ (text ++ after)
    _ ↔ pattern <:+: text ++ after := by
      rw [starts]
      exact infix_append_iff (notMem_blanks blankBefore firstSolid)
    _ ↔ pattern <:+: text := by
      rw [ends]
      exact infix_append_right_iff (notMem_blanks blankAfter lastSolid)

theorem occursIn_trim {pattern : List Char} (solid : isSolid pattern = true) (text : List Char) :
    occursIn pattern (trim text) = occursIn pattern text := by
  obtain ⟨before, after, blankBefore, blankAfter, around⟩ := exists_around_trim text
  rw [← occursIn_around blankBefore blankAfter solid (trim text), ← around]

/-! ## Lower-casing -/

theorem casing_of_isBlank {c : Char} (blank : isBlank c = true) :
    lowerChar c = [c] ∧ c ≠ 'Σ' ∧ isCased c = false ∧ isCaseIgnorable c = false := by
  have table : ∀ c, isBlank c = true →
      lowerChar c = [c] ∧ c ≠ 'Σ' ∧ isCased c = false ∧ isCaseIgnorable c = false :=
    forall_isBlank (by decide +kernel)
  exact table c blank

theorem nextIsCased_append {ahead : List Char} (stops : ∀ c ∈ ahead.head?, isBlank c = true)
    (text : List Char) : nextIsCased (text ++ ahead) = nextIsCased text := by
  have stopped : ahead.dropWhile isCaseIgnorable = ahead :=
    dropWhile_stopped fun c isHead => (casing_of_isBlank (stops c isHead)).2.2.2
  rw [nextIsCased, nextIsCased, List.dropWhile_append, stopped]
  cases text.dropWhile isCaseIgnorable with
  | nil =>
      cases ahead with
      | nil => rfl
      | cons c rest => exact (casing_of_isBlank (stops c (by simp))).2.2.1
  | cons c rest => rfl

theorem lowerFrom_blank {c : Char} (blank : isBlank c = true) (seen rest : List Char) :
    lowerFrom seen (c :: rest) = c :: lowerFrom (c :: seen) rest := by
  obtain ⟨lowered, noSigma, -, -⟩ := casing_of_isBlank blank
  rw [lowerFrom, if_neg noSigma, lowered, List.singleton_append]

theorem lowerFrom_blanks {blanks : List Char} (blank : ∀ c ∈ blanks, isBlank c = true)
    (seen rest : List Char) :
    lowerFrom seen (blanks ++ rest) = blanks ++ lowerFrom (blanks.reverse ++ seen) rest := by
  induction blanks generalizing seen with
  | nil => rfl
  | cons c blanks ih =>
      rw [List.cons_append, lowerFrom_blank (blank c (by simp)),
        ih fun other member => blank other (List.mem_cons_of_mem _ member)]
      simp

theorem lowerFrom_append (seen text : List Char) {behind ahead : List Char}
    (blankBehind : ∀ c ∈ behind.head?, isBlank c = true)
    (blankAhead : ∀ c ∈ ahead.head?, isBlank c = true) :
    lowerFrom (seen ++ behind) (text ++ ahead) =
      lowerFrom seen text ++ lowerFrom (text.reverse ++ (seen ++ behind)) ahead := by
  induction text generalizing seen with
  | nil => rfl
  | cons c text ih =>
      have rest := ih (c :: seen)
      rw [List.cons_append, lowerFrom, lowerFrom, nextIsCased_append blankBehind,
        nextIsCased_append blankAhead, ← List.cons_append, rest, List.append_assoc,
        List.reverse_cons, List.append_assoc]
      rfl

theorem lower_append_blank {c : Char} (blank : isBlank c = true) (front back : List Char) :
    lower (front ++ c :: back) = lower front ++ c :: lower back := by
  have starts {rest : List Char} : ∀ first ∈ (c :: rest).head?, isBlank first = true := by
    simpa using blank
  have none : ∀ first ∈ ([] : List Char).head?, isBlank first = true := by simp
  calc lower (front ++ c :: back)
    _ = lower front ++ lowerFrom (front.reverse ++ []) (c :: back) :=
      lowerFrom_append [] front none starts
    _ = lower front ++ c :: lowerFrom ([] ++ c :: front.reverse) (back ++ []) := by
      rw [lowerFrom_blank blank, List.append_nil, List.append_nil, List.nil_append]
    _ = lower front ++ c :: lower back := by
      rw [lowerFrom_append [] back starts none, lowerFrom, List.append_nil, lower, lower]

include blankBefore blankAfter in
theorem lower_around (text : List Char) :
    lower (before ++ (text ++ after)) = before ++ (lower text ++ after) := by
  have behind : ∀ c ∈ before.reverse.head?, isBlank c = true := fun c isHead =>
    blankBefore c (List.mem_reverse.mp (List.mem_of_mem_head? isHead))
  have ahead : ∀ c ∈ after.head?, isBlank c = true := fun c isHead =>
    blankAfter c (List.mem_of_mem_head? isHead)
  have kept (seen : List Char) : lowerFrom seen after = after := by
    simpa [lowerFrom] using lowerFrom_blanks blankAfter seen []
  calc lower (before ++ (text ++ after))
    _ = before ++ lowerFrom ([] ++ before.reverse) (text ++ after) := by
      rw [lower, lowerFrom_blanks blankBefore, List.append_nil, List.nil_append]
    _ = before ++ (lower text ++ after) := by
      rw [lowerFrom_append [] text behind ahead, kept, lower]

theorem occursIn_lower_trim {pattern : List Char} (solid : isSolid pattern = true)
    (text : List Char) : occursIn pattern (lower (trim text)) = occursIn pattern (lower text) := by
  obtain ⟨before, after, blankBefore, blankAfter, around⟩ := exists_around_trim text
  rw [← occursIn_around blankBefore blankAfter solid (lower (trim text)),
    ← lower_around blankBefore blankAfter, ← around]

end HouseStyle.Text
