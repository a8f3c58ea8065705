import HouseStyle.Proofs.Text
import HouseStyle.Text.Lower

/-!
# Words up to the case of their letters

A text is lower-cased before a word is looked for in it. This is the full lower-casing of Unicode: some
characters become two, the case of a sigma depends on its neighbours, and two characters beyond ASCII
become ASCII letters. Still a word is found exactly where its letters stand, if one does not look at
their case, as long as the word avoids the letters that other characters turn into.

* `lowerFrom_foreign`: what a character beyond ASCII leaves in the lower-cased text.
* `prefix_lowerFrom_iff`, `infix_lowerFrom_iff`: words at the start of a text, and words in a text.
-/

namespace HouseStyle.Text

def SameUpToCase (text text' : List Char) : Prop :=
  text.map Char.toLower = text'.map Char.toLower

instance (text text' : List Char) : Decidable (SameUpToCase text text') :=
  inferInstanceAs (Decidable (_ = _))

def OccursUpToCase (word text : List Char) : Prop :=
  ∃ part, part <:+: text ∧ SameUpToCase part word

theorem occursUpToCase_iff {word text : List Char} :
    OccursUpToCase word text ↔ word.map Char.toLower <:+: text.map Char.toLower := by
  rw [List.infix_map_iff]
  exact exists_congr fun part => and_congr_right fun _ => eq_comm

instance (word text : List Char) : Decidable (OccursUpToCase word text) :=
  decidable_of_iff (occursIn (word.map Char.toLower) (text.map Char.toLower) = true)
    ((Text.occursIn_iff_infix _ _).trans occursUpToCase_iff.symm)

theorem SameUpToCase.occursUpToCase_iff {text text' : List Char} (same : SameUpToCase text text')
    (word : List Char) : OccursUpToCase word text ↔ OccursUpToCase word text' := by
  rw [Text.occursUpToCase_iff, Text.occursUpToCase_iff, same]

/-! ## ASCII letters -/

theorem toNat_toLower (c : Char) : c.toLower.toNat =
    if 0x41 ≤ c.toNat ∧ c.toNat ≤ 0x5A then c.toNat + 0x20 else c.toNat := by
  have isCapital : c.val ≥ 'A'.val ∧ c.val ≤ 'Z'.val ↔ 0x41 ≤ c.toNat ∧ c.toNat ≤ 0x5A := Iff.rfl
  by_cases capital : c.val ≥ 'A'.val ∧ c.val ≤ 'Z'.val
  · have lowered : c.toLower.val = c.val + 0x20 := congrArg Char.val (dif_pos capital)
    have small := Nat.lt_of_le_of_lt (isCapital.mp capital).2 (show 0x5A < 0x80 by decide)
    have sum : (c.val + 0x20).toNat = (c.toNat + 0x20) % UInt32.size := UInt32.toNat_add c.val 0x20
    rw [Nat.mod_eq_of_lt (by simp only [UInt32.size]; omega)] at sum
    rw [if_pos (isCapital.mp capital), ← sum, ← lowered]
    rfl
  · have kept : c.toLower = c := dif_neg capital
    rw [if_neg (mt isCapital.mpr capital), kept]

theorem eq_of_toLower_eq {c sign : Char} (early : sign.toNat < 0x41)
    (same : c.toLower = sign.toLower) : c = sign := by
  have noCapital : ¬ (0x41 ≤ sign.toNat ∧ sign.toNat ≤ 0x5A) := by omega
  have numbers := congrArg Char.toNat same
  rw [toNat_toLower, toNat_toLower, if_neg noCapital] at numbers
  rw [← Char.toNat_inj]
  split at numbers <;> omega

theorem eq_of_sameUpToCase {part signs : List Char} (early : ∀ sign ∈ signs, sign.toNat < 0x41)
    (same : SameUpToCase part signs) : part = signs := by
  induction signs generalizing part with
  | nil => exact List.map_eq_nil_iff.mp same
  | cons sign signs ih =>
      obtain ⟨c, others, rfl, first, rest⟩ := List.map_eq_cons_iff.mp same
      obtain ⟨earlySign, earlySigns⟩ := List.forall_mem_cons.mp early
      rw [eq_of_toLower_eq earlySign first, ih earlySigns rest]

theorem occursUpToCase_iff_infix {signs : List Char} (early : ∀ sign ∈ signs, sign.toNat < 0x41)
    (text : List Char) : OccursUpToCase signs text ↔ signs <:+: text := by
  constructor
  · rintro ⟨part, inText, same⟩
    rwa [← eq_of_sameUpToCase early same]
  · intro inText
    exact ⟨signs, inText, rfl⟩

/-! ## Characters beyond ASCII -/

/-- An ASCII character that no character beyond ASCII turns into, not counting the dotted capital I:
not `k`, which the Kelvin sign turns into, and not NUL, which stands for an invalid number. -/
def IsPlain (c : Char) : Prop :=
  c.toNat < 0x80 ∧ c ≠ 'k' ∧ c.toNat ≠ 0

instance (c : Char) : Decidable (IsPlain c) :=
  inferInstanceAs (Decidable (_ ∧ _ ∧ _))

theorem not_isPlain_ofNat {number : Nat} (large : 0x80 ≤ number) : ¬ IsPlain (Char.ofNat number) := by
  rintro ⟨small, -, nonzero⟩
  by_cases valid : number.isValidChar
  · have same : (Char.ofNat number).toNat = number := by
      rw [Char.ofNat, dif_pos valid]
      rfl
    omega
  · rw [Char.ofNat, dif_neg valid] at nonzero
    exact nonzero rfl

theorem not_isPlain_lowerChar {c : Char} (foreign : 0x80 ≤ c.toNat) (undotted : c ≠ 'İ') :
    ∃ low, lowerChar c = [low] ∧ ¬ IsPlain low := by
  rw [lowerChar, if_neg (Nat.not_lt.mpr foreign), if_neg undotted]
  cases found : lowerRuns.find? (·.holds c.toNat) with
  | none => exact ⟨c, rfl, fun plain => Nat.not_lt.mpr foreign plain.1⟩
  | some run =>
      have table : ∀ run ∈ lowerRuns, run.last < 0x80 ∨ 0x80 ≤ run.lower ∨
          run.last = run.first ∧ run.lower = 0x6B := by decide +kernel
      have holds := List.find?_some found
      simp only [CaseRun.holds, Bool.and_eq_true, decide_eq_true_eq] at holds
      refine ⟨run.apply c.toNat, rfl, ?_⟩
      rw [CaseRun.apply]
      rcases table run (List.mem_of_find?_eq_some found) with ascii | foreignLower | ⟨single, kelvin⟩
      · omega
      · exact not_isPlain_ofNat (by omega)
      · have same : run.lower + (c.toNat - run.first) = 0x6B := by omega
        rw [same]
        decide

def dotAbove : Char := Char.ofNat 0x307

theorem lowerFrom_foreign {c : Char} (foreign : 0x80 ≤ c.toNat) (seen rest : List Char) :
    lowerFrom seen (c :: rest) = 'i' :: dotAbove :: lowerFrom (c :: seen) rest ∨
    ∃ low, ¬ IsPlain low ∧ lowerFrom seen (c :: rest) = low :: lowerFrom (c :: seen) rest := by
  rw [lowerFrom]
  by_cases sigma : c = 'Σ'
  · rw [if_pos sigma]
    split
    · exact .inr ⟨'ς', by decide, rfl⟩
    · exact .inr ⟨'σ', by decide, rfl⟩
  · rw [if_neg sigma]
    by_cases dotted : c = 'İ'
    · subst dotted
      exact .inl rfl
    · obtain ⟨low, lowered, notPlain⟩ := not_isPlain_lowerChar foreign dotted
      rw [lowered]
      exact .inr ⟨low, notPlain, rfl⟩

theorem lowerFrom_ascii {c : Char} (ascii : c.toNat < 0x80) (seen rest : List Char) :
    lowerFrom seen (c :: rest) = c.toLower :: lowerFrom (c :: seen) rest := by
  have noSigma : c ≠ 'Σ' := by
    rintro rfl
    exact absurd ascii (by decide)
  rw [lowerFrom, if_neg noSigma, lowerChar, if_pos ascii, List.singleton_append]

theorem not_isPlain_toLower {c : Char} (foreign : 0x80 ≤ c.toNat) : ¬ IsPlain c.toLower := by
  rintro ⟨ascii, -⟩
  rw [toNat_toLower] at ascii
  split at ascii <;> omega

/-! ## Words -/

/-- A word that is found where its letters stand. An `i` at its end would also be found in a dotted
capital I, which becomes an `i` with a dot after it. -/
structure IsPlainWord (word : List Char) : Prop where
  plain : ∀ c ∈ word, IsPlain c
  noFinalI : word.getLast? ≠ some 'i'

theorem IsPlainWord.tail {c : Char} {word : List Char} (isPlain : IsPlainWord (c :: word)) :
    IsPlainWord word := by
  refine ⟨fun d member => isPlain.plain d (List.mem_cons_of_mem c member), fun final => ?_⟩
  refine isPlain.noFinalI ?_
  rw [List.getLast?_cons, final]
  rfl

theorem IsPlainWord.eq_nil_of_prefix {word text : List Char} {low : Char}
    (isPlain : IsPlainWord word) (notPlain : ¬ IsPlain low) (starts : word <+: low :: text) :
    word = [] := by
  cases word with
  | nil => rfl
  | cons c word =>
      obtain ⟨rfl, -⟩ := List.cons_prefix_cons.mp starts
      exact absurd (isPlain.plain c List.mem_cons_self) notPlain

theorem prefix_lowerFrom_iff {word : List Char} (isPlain : IsPlainWord word)
    (seen text : List Char) :
    word <+: lowerFrom seen text ↔ word <+: text.map Char.toLower := by
  -- Induction on the word: a character beyond ASCII has no part in an occurrence on either side.
  induction word generalizing seen text with
  | nil => exact iff_of_true List.nil_prefix List.nil_prefix
  | cons c word ih =>
      cases text with
      | nil => rfl
      | cons d text =>
          rw [List.map_cons]
          by_cases ascii : d.toNat < 0x80
          · rw [lowerFrom_ascii ascii, List.cons_prefix_cons, List.cons_prefix_cons, ih isPlain.tail]
          · have foreign := Nat.le_of_not_lt ascii
            refine iff_of_false (fun starts => ?_) fun starts => ?_
            · rcases lowerFrom_foreign foreign seen text with dotted | ⟨low, notPlain, lowered⟩
              · rw [dotted, List.cons_prefix_cons] at starts
                obtain ⟨rfl, starts⟩ := starts
                have final := isPlain.tail.eq_nil_of_prefix (by decide) starts
                exact isPlain.noFinalI (by rw [final]; rfl)
              · rw [lowered] at starts
                exact List.cons_ne_nil _ _ (isPlain.eq_nil_of_prefix notPlain starts)
            · exact List.cons_ne_nil _ _
                (isPlain.eq_nil_of_prefix (not_isPlain_toLower foreign) starts)

theorem infix_lowerFrom_iff {word : List Char} (isPlain : IsPlainWord word) (seen text : List Char) :
    word <:+: lowerFrom seen text ↔ word <:+: text.map Char.toLower := by
  induction text generalizing seen with
  | nil => rfl
  | cons c text ih =>
      have starts := prefix_lowerFrom_iff isPlain seen (c :: text)
      rw [List.map_cons] at starts
      rw [List.map_cons, List.infix_cons_iff, ← starts, ← ih (c :: seen)]
      by_cases ascii : c.toNat < 0x80
      · rw [lowerFrom_ascii ascii, List.infix_cons_iff]
      · rcases lowerFrom_foreign (Nat.le_of_not_lt ascii) seen text with dotted | ⟨low, -, lowered⟩
        · rw [dotted, List.infix_cons_iff, List.infix_cons_iff]
          refine or_congr_right (or_iff_right_of_imp fun atDot => ?_)
          rw [isPlain.eq_nil_of_prefix (by decide) atDot]
          exact List.nil_infix
        · rw [lowered, List.infix_cons_iff]

theorem occursIn_lower_iff {word : List Char} (isPlain : IsPlainWord (word.map Char.toLower))
    (text : List Char) :
    occursIn (word.map Char.toLower) (lower text) = true ↔ OccursUpToCase word text := by
  rw [Text.occursIn_iff_infix, lower, infix_lowerFrom_iff isPlain, occursUpToCase_iff]

end HouseStyle.Text
