import HouseStyle.Proofs.Text
import HouseStyle.Text.Reader

namespace HouseStyle.Text.Reader

variable {α β : Type}

theorem bind_eq {reader : Reader α} {next : α → Reader β} {text rest : List Char} {value : α}
    (step : reader text = some (value, rest)) : (reader >>= next) text = next value rest := by
  change (reader text).bind (fun read => next read.1 read.2) = _
  rw [step]
  rfl

theorem bind_eq_none {reader : Reader α} {next : α → Reader β} {text : List Char}
    (step : reader text = none) : (reader >>= next) text = none := by
  change (reader text).bind (fun read => next read.1 read.2) = _
  rw [step]
  rfl

theorem pure_eq (value : α) (text : List Char) : (pure value : Reader α) text = some (value, text) :=
  rfl

/-! ## Single characters and runs -/

theorem satisfy_cons {test : Char → Bool} {c : Char} (holds : test c = true) (rest : List Char) :
    satisfy test (c :: rest) = some (c, rest) := by
  simp [satisfy, holds]

theorem char_cons (c : Char) (rest : List Char) : char c (c :: rest) = some ((), rest) :=
  bind_eq (satisfy_cons (by simp) rest)

theorem char_cons_of_ne {c first : Char} (different : first ≠ c) (rest : List Char) :
    char c (first :: rest) = none :=
  bind_eq_none (by simp [satisfy, different])

theorem peek_eq (text : List Char) : peek text = some (text.head?, text) := rfl

theorem run_append {test : Char → Bool} {taken rest : List Char}
    (inside : ∀ c ∈ taken, test c = true) (stop : ∀ c ∈ rest.head?, test c = false) :
    run test (taken ++ rest) = some (taken, rest) := by
  rw [run, takeWhile_run inside stop, dropWhile_run inside stop]

theorem run_stopped {test : Char → Bool} {text : List Char}
    (stop : ∀ c ∈ text.head?, test c = false) : run test text = some ([], text) := by
  rw [run, takeWhile_stopped stop, dropWhile_stopped stop]

theorem run1_append {test : Char → Bool} {taken rest : List Char} (nonempty : taken ≠ [])
    (inside : ∀ c ∈ taken, test c = true) (stop : ∀ c ∈ rest.head?, test c = false) :
    run1 test (taken ++ rest) = some (taken, rest) := by
  rw [run1, bind_eq (run_append inside stop), if_neg nonempty, pure_eq]

theorem literal_append (word rest : List Char) : literal word (word ++ rest) = some ((), rest) := by
  have holds : word.isPrefixOf (word ++ rest) = true := by
    rw [List.isPrefixOf_iff_prefix]
    exact List.prefix_append word rest
  rw [literal, if_pos holds, List.drop_left]

/-! ## Repetition -/

/-- The texts on which a step can be taken again and again, with the values that it gives and the
text at which it fails in the end. -/
inductive Chain (step : Reader α) : List Char → List α → List Char → Prop where
  | stop {text : List Char} (fails : step text = none) : Chain step text [] text
  | next {text rest last : List Char} {value : α} {values : List α}
      (takes : step text = some (value, rest)) (shorter : rest.length < text.length)
      (more : Chain step rest values last) : Chain step text (value :: values) last

theorem Chain.length_le {step : Reader α} {text last : List Char} {values : List α}
    (chain : Chain step text values last) : values.length ≤ text.length := by
  induction chain with
  | stop => simp
  | next _ shorter _ ih =>
      simp only [List.length_cons]
      omega

theorem upTo_of_chain {step : Reader α} {text last : List Char} {values : List α}
    (chain : Chain step text values last) (count : Nat) (enough : values.length ≤ count) :
    upTo count step text = some (values, last) := by
  induction chain generalizing count with
  | stop fails =>
      cases count with
      | zero => rfl
      | succ count => simp [upTo, fails]
  | next takes _ _ ih =>
      cases count with
      | zero => simp at enough
      | succ count => simp [upTo, takes, ih count (by simpa using enough)]

theorem many_of_chain {step : Reader α} {text last : List Char} {values : List α}
    (chain : Chain step text values last) : many step text = some (values, last) :=
  upTo_of_chain chain _ chain.length_le

theorem separated_of_chain {separator : Reader Unit} {item : Reader α}
    {text rest last : List Char} {value : α} {values : List α}
    (first : item text = some (value, rest))
    (others : Chain (do separator; item) rest values last) :
    separated separator item text = some (value :: values, last) := by
  rw [separated, bind_eq first, bind_eq (many_of_chain others), pure_eq]

end HouseStyle.Text.Reader
