import HouseStyle.Text.Blank
import HouseStyle.Text.Digits
import HouseStyle.Text.Find
import HouseStyle.Text.Word
import Mathlib.Data.List.Basic
import Mathlib.Data.List.TakeWhile

namespace HouseStyle.Text

/-! ## Finding -/

theorem occursIn_iff_infix (pattern text : List Char) :
    occursIn pattern text = true ↔ pattern <:+: text := by
  induction text with
  | nil => simp [occursIn]
  | cons c rest ih => simp [occursIn, ih, List.infix_cons_iff, List.isPrefixOf_iff_prefix]

/-! ## Splitting -/

section Splitting

variable {α : Type} [DecidableEq α] {separator : α}

theorem splitAt_ne_nil (separator : α) (text : List α) : splitAt separator text ≠ [] := by
  fun_cases splitAt separator text <;> simp

theorem splitAt_of_notMem {text : List α} (none : separator ∉ text) :
    splitAt separator text = [text] := by
  induction text with
  | nil => rfl
  | cons c text ih =>
      rw [List.mem_cons, not_or] at none
      rw [splitAt, if_neg (Ne.symm none.1), ih none.2]

theorem notMem_of_mem_splitAt {text piece : List α} (member : piece ∈ splitAt separator text) :
    separator ∉ piece := by
  induction text generalizing piece with
  | nil => simp_all [splitAt]
  | cons c text ih =>
      rw [splitAt] at member
      split at member
      · rcases List.mem_cons.mp member with rfl | later
        · simp
        · exact ih later
      · rename_i other
        cases pieces : splitAt separator text with
        | nil => exact absurd pieces (splitAt_ne_nil separator text)
        | cons first more =>
            rw [pieces] at member ih
            rcases List.mem_cons.mp member with rfl | later
            · simp [Ne.symm other, ih List.mem_cons_self]
            · exact ih (List.mem_cons_of_mem _ later)

theorem splitAt_append {piece : List α} (none : separator ∉ piece) (rest : List α) :
    splitAt separator (piece ++ separator :: rest) = piece :: splitAt separator rest := by
  induction piece with
  | nil => simp [splitAt]
  | cons c piece ih =>
      rw [List.mem_cons, not_or] at none
      rw [List.cons_append, splitAt, if_neg (Ne.symm none.1), ih none.2]

theorem splitAt_intercalate {pieces : List (List α)} (nonempty : pieces ≠ [])
    (none : ∀ piece ∈ pieces, separator ∉ piece) :
    splitAt separator ([separator].intercalate pieces) = pieces := by
  induction pieces with
  | nil => contradiction
  | cons piece pieces ih =>
      cases pieces with
      | nil => simpa using splitAt_of_notMem (none piece (by simp))
      | cons next pieces =>
          rw [List.intercalate_cons_cons, List.append_assoc, List.singleton_append,
            splitAt_append (none piece (by simp)),
            ih (by simp) fun other member => none other (List.mem_cons_of_mem _ member)]

end Splitting

theorem intercalate_cons (separator part : List Char) (parts : List (List Char)) :
    separator.intercalate (part :: parts) = part ++ parts.flatMap (separator ++ ·) := by
  induction parts generalizing part with
  | nil => simp
  | cons next parts ih => simp [List.intercalate_cons_cons, ih]

/-! ## Runs -/

section Runs

variable {α : Type} {test : α → Bool} {run rest : List α}

theorem takeWhile_stopped (stop : ∀ item ∈ rest.head?, test item = false) :
    rest.takeWhile test = [] := by
  cases rest <;> simp_all

theorem dropWhile_stopped (stop : ∀ item ∈ rest.head?, test item = false) :
    rest.dropWhile test = rest := by
  cases rest <;> simp_all

theorem takeWhile_run (inside : ∀ item ∈ run, test item = true)
    (stop : ∀ item ∈ rest.head?, test item = false) : (run ++ rest).takeWhile test = run := by
  rw [List.takeWhile_append_of_pos inside, takeWhile_stopped stop, List.append_nil]

theorem dropWhile_run (inside : ∀ item ∈ run, test item = true)
    (stop : ∀ item ∈ rest.head?, test item = false) : (run ++ rest).dropWhile test = rest := by
  rw [List.dropWhile_append_of_pos inside, dropWhile_stopped stop]

theorem run_unique {run' rest' : List α} (same : run ++ rest = run' ++ rest')
    (inside : ∀ item ∈ run, test item = true) (stop : ∀ item ∈ rest.head?, test item = false)
    (inside' : ∀ item ∈ run', test item = true)
    (stop' : ∀ item ∈ rest'.head?, test item = false) : run = run' ∧ rest = rest' := by
  constructor
  · rw [← takeWhile_run inside stop, same, takeWhile_run inside' stop']
  · rw [← dropWhile_run inside stop, same, dropWhile_run inside' stop']

theorem dropWhile_stops (test : α → Bool) (items : List α) :
    ∀ item ∈ (items.dropWhile test).head?, test item = false := by
  intro item isHead
  have stops := List.head?_dropWhile_not test items
  rw [Option.mem_def] at isHead
  rwa [isHead] at stops

end Runs

/-! ## Blanks and word characters -/

def blankNumbers : List Nat :=
  [0x09, 0x0A, 0x0B, 0x0C, 0x0D, 0x20, 0x85, 0xA0, 0x1680, 0x2000, 0x2001, 0x2002, 0x2003, 0x2004,
    0x2005, 0x2006, 0x2007, 0x2008, 0x2009, 0x200A, 0x2028, 0x2029, 0x202F, 0x205F, 0x3000]

theorem toNat_mem_blankNumbers {c : Char} (blank : isBlank c = true) : c.toNat ∈ blankNumbers := by
  simp only [isBlank, Bool.or_eq_true, Bool.and_eq_true, decide_eq_true_eq, beq_iff_eq] at blank
  simp only [blankNumbers, List.mem_cons, List.not_mem_nil, or_false]
  grind

theorem forall_isBlank {P : Char → Prop} (table : ∀ number ∈ blankNumbers, P (Char.ofNat number))
    (c : Char) (blank : isBlank c = true) : P c := by
  rw [← Char.ofNat_toNat c]
  exact table _ (toNat_mem_blankNumbers blank)

theorem isWordChar_of_isBlank {c : Char} (blank : isBlank c = true) : isWordChar c = false :=
  forall_isBlank (P := fun c => isWordChar c = false) (by decide +kernel) c blank

theorem isBlank_of_isWordChar {c : Char} (word : isWordChar c = true) : isBlank c = false := by
  cases blank : isBlank c with
  | false => rfl
  | true => rw [isWordChar_of_isBlank blank] at word; contradiction

/-! ## Trimming -/

theorem trimStart_eq_nil_iff {text : List Char} :
    trimStart text = [] ↔ ∀ c ∈ text, isBlank c = true :=
  List.dropWhile_eq_nil_iff

theorem trimEnd_eq_nil_iff {text : List Char} :
    trimEnd text = [] ↔ ∀ c ∈ text, isBlank c = true := by
  simp [trimEnd]

theorem trim_eq_nil_iff {text : List Char} : trim text = [] ↔ ∀ c ∈ text, isBlank c = true := by
  rw [trim, trimEnd_eq_nil_iff]
  constructor
  · intro blank
    apply trimStart_eq_nil_iff.mp
    cases start : trimStart text with
    | nil => rfl
    | cons c rest =>
        -- What is left starts with a character that is no blank.
        have stops := dropWhile_stops isBlank text c (by rw [← trimStart, start]; rfl)
        rw [blank c (by simp [start])] at stops
        contradiction
  · intro blank
    simp [trimStart_eq_nil_iff.mpr blank]

/-! ## Decimal digits -/

theorem digitsValue_eq_ofDigitChars {digits : List Char}
    (decimal : ∀ c ∈ digits, c.isDigit = true) :
    digitsValue 10 digits = Nat.ofDigitChars 10 digits 0 := by
  rw [digitsValue, Nat.ofDigitChars_eq_foldl]
  apply List.foldl_ext
  intro total c member
  simp [digitValue?, decimal c member]

theorem digitsValue_toDigits (number : Nat) : digitsValue 10 (Nat.toDigits 10 number) = number := by
  rw [digitsValue_eq_ofDigitChars fun c => Nat.isDigit_of_mem_toDigits (by decide) (by decide),
    Nat.ofDigitChars_ten_toDigits]

theorem notMem_toDigits {c : Char} (noDigit : c.isDigit = false) (number : Nat) :
    c ∉ Nat.toDigits 10 number := by
  intro member
  rw [Nat.isDigit_of_mem_toDigits (by decide) (by decide) member] at noDigit
  contradiction

theorem toDigits_eq_cons (number : Nat) :
    ∃ first others, Nat.toDigits 10 number = first :: others ∧ first.isDigit = true := by
  cases digits : Nat.toDigits 10 number with
  | nil => exact absurd digits Nat.toDigits_ne_nil
  | cons first others =>
      refine ⟨first, others, rfl, Nat.isDigit_of_mem_toDigits (b := 10) (n := number) ?_ ?_ ?_⟩
      · decide
      · decide
      · simp [digits]

theorem head?_toDigits_eq_zero {number : Nat} (zero : (Nat.toDigits 10 number).head? = some '0') :
    number = 0 := by
  induction number using Nat.base_induction 10 (by decide) with
  | single digit small =>
      rw [Nat.toDigits_of_lt_base small] at zero
      revert digit
      decide
  | digit front last small positive ih =>
      have written := Nat.toDigits_append_toDigits (by decide) positive small
      rw [← written, List.head?_append_of_ne_nil _ Nat.toDigits_ne_nil] at zero
      have := ih zero
      omega

end HouseStyle.Text
