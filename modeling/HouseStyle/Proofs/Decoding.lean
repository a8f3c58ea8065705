import HouseStyle.Text.Utf8
import Mathlib.Data.List.Induction
import Mathlib.Data.List.Infix

/-!
# Decoding bytes

What it means to decode bytes that may be invalid, and that the decoder does it. The characters whose
bytes stand there are read; where there are none, the longest part that begins a character is taken
out, or one byte if there is no such part, and a replacement character is put in its place.

* `Spells`: the table of the bytes that spell each character.
* `Decoding`: texts that are the decoding of some bytes. There is always one, and only one.
* `decoding_encode`: the bytes of a text are decoded to that text.
* `decodeLossy_eq_iff`: the decoder gives the decoding of its bytes.
-/

namespace HouseStyle.Text

/-! ## The bytes of characters -/

def IsTrail (byte : UInt8) : Prop :=
  0x80 ≤ byte ∧ byte ≤ 0xBF

def Leads : Nat → UInt8 → UInt8 → Prop
  | 1, lead, second => 0xC2 ≤ lead ∧ lead ≤ 0xDF ∧ IsTrail second
  | 2, lead, second => 0xE0 ≤ lead ∧ lead ≤ 0xEF ∧ IsTrail second ∧
      (lead = 0xE0 → 0xA0 ≤ second) ∧ (lead = 0xED → second ≤ 0x9F)
  | 3, lead, second => 0xF0 ≤ lead ∧ lead ≤ 0xF4 ∧ IsTrail second ∧
      (lead = 0xF0 → 0x90 ≤ second) ∧ (lead = 0xF4 → second ≤ 0x8F)
  | _, _, _ => False

inductive Spells : List UInt8 → Nat → Prop where
  | one {a : UInt8} {number : Nat} (small : a ≤ 0x7F) (value : number = a.toNat) :
      Spells [a] number
  | two {a b : UInt8} {number : Nat} (start : Leads 1 a b)
      (value : number = a.toNat % 32 * 64 + b.toNat % 64) : Spells [a, b] number
  | three {a b c : UInt8} {number : Nat} (start : Leads 2 a b) (third : IsTrail c)
      (value : number = (a.toNat % 16 * 64 + b.toNat % 64) * 64 + c.toNat % 64) :
      Spells [a, b, c] number
  | four {a b c d : UInt8} {number : Nat} (start : Leads 3 a b) (third : IsTrail c)
      (fourth : IsTrail d)
      (value : number =
        ((a.toNat % 8 * 64 + b.toNat % 64) * 64 + c.toNat % 64) * 64 + d.toNat % 64) :
      Spells [a, b, c, d] number

theorem single_iff {byte : UInt8} : byte ≤ 0x7F ↔ byte.toNat ≤ 0x7F :=
  Iff.rfl

theorem isTrail_iff {byte : UInt8} : IsTrail byte ↔ 0x80 ≤ byte.toNat ∧ byte.toNat ≤ 0xBF :=
  Iff.rfl

theorem leads_one_iff {lead second : UInt8} : Leads 1 lead second ↔
    0xC2 ≤ lead.toNat ∧ lead.toNat ≤ 0xDF ∧ 0x80 ≤ second.toNat ∧ second.toNat ≤ 0xBF :=
  Iff.rfl

theorem leads_two_iff {lead second : UInt8} : Leads 2 lead second ↔
    0xE0 ≤ lead.toNat ∧ lead.toNat ≤ 0xEF ∧ (0x80 ≤ second.toNat ∧ second.toNat ≤ 0xBF) ∧
      (lead.toNat = 0xE0 → 0xA0 ≤ second.toNat) ∧ (lead.toNat = 0xED → second.toNat ≤ 0x9F) := by
  rw [Leads, ← UInt8.toNat_inj, ← UInt8.toNat_inj]
  rfl

theorem leads_three_iff {lead second : UInt8} : Leads 3 lead second ↔
    0xF0 ≤ lead.toNat ∧ lead.toNat ≤ 0xF4 ∧ (0x80 ≤ second.toNat ∧ second.toNat ≤ 0xBF) ∧
      (lead.toNat = 0xF0 → 0x90 ≤ second.toNat) ∧ (lead.toNat = 0xF4 → second.toNat ≤ 0x8F) := by
  rw [Leads, ← UInt8.toNat_inj, ← UInt8.toNat_inj]
  rfl

theorem utf8EncodeChar_eq (c : Char) : String.utf8EncodeChar c =
    if c.toNat ≤ 0x7F then [UInt8.ofNat c.toNat]
    else if c.toNat ≤ 0x7FF then
      [UInt8.ofNat (c.toNat / 64 % 32 + 0xC0), UInt8.ofNat (c.toNat % 64 + 0x80)]
    else if c.toNat ≤ 0xFFFF then
      [UInt8.ofNat (c.toNat / 4096 % 16 + 0xE0), UInt8.ofNat (c.toNat / 64 % 64 + 0x80),
        UInt8.ofNat (c.toNat % 64 + 0x80)]
    else
      [UInt8.ofNat (c.toNat / 262144 % 8 + 0xF0), UInt8.ofNat (c.toNat / 4096 % 64 + 0x80),
        UInt8.ofNat (c.toNat / 64 % 64 + 0x80), UInt8.ofNat (c.toNat % 64 + 0x80)] := rfl

theorem spells_utf8EncodeChar (c : Char) : Spells (String.utf8EncodeChar c) c.toNat := by
  have valid : c.toNat.isValidChar := c.valid
  rw [Nat.isValidChar] at valid
  rw [utf8EncodeChar_eq]
  split_ifs
  · refine .one ?_ ?_ <;> simp only [single_iff, UInt8.toNat_ofNat'] <;> omega
  · refine .two ?_ ?_ <;> simp only [leads_one_iff, UInt8.toNat_ofNat'] <;> omega
  · refine .three ?_ ?_ ?_ <;>
      simp only [leads_two_iff, isTrail_iff, UInt8.toNat_ofNat'] <;> and_intros <;> omega
  · refine .four ?_ ?_ ?_ ?_ <;>
      simp only [leads_three_iff, isTrail_iff, UInt8.toNat_ofNat'] <;> and_intros <;> omega

theorem utf8EncodeChar_ascii {c : Char} (ascii : c.toNat < 0x80) :
    String.utf8EncodeChar c = [UInt8.ofNat c.toNat] := by
  rw [utf8EncodeChar_eq, if_pos (Nat.le_of_lt_succ ascii)]

theorem ofNat_eq_iff {number : Nat} {byte : UInt8} :
    UInt8.ofNat number = byte ↔ number % 256 = byte.toNat := by
  rw [← UInt8.toNat_inj, UInt8.toNat_ofNat']

theorem utf8EncodeChar_of_spells {bytes : List UInt8} {c : Char} (spells : Spells bytes c.toNat) :
    String.utf8EncodeChar c = bytes := by
  rw [utf8EncodeChar_eq]
  cases spells with
  | one small value =>
      rw [single_iff] at small
      rw [if_pos (by omega), value, UInt8.ofNat_toNat]
  | two start value =>
      rw [leads_one_iff] at start
      rw [if_neg (by omega), if_pos (by omega)]
      simp only [List.cons.injEq, ofNat_eq_iff, and_true]
      and_intros <;> omega
  | three start third value =>
      rw [leads_two_iff] at start
      rw [isTrail_iff] at third
      rw [if_neg (by omega), if_neg (by omega), if_pos (by omega)]
      simp only [List.cons.injEq, ofNat_eq_iff, and_true]
      and_intros <;> omega
  | four start third fourth value =>
      rw [leads_three_iff] at start
      rw [isTrail_iff] at third fourth
      rw [if_neg (by omega), if_neg (by omega), if_neg (by omega)]
      simp only [List.cons.injEq, ofNat_eq_iff, and_true]
      and_intros <;> omega

theorem Spells.isValidChar {bytes : List UInt8} {number : Nat} (spells : Spells bytes number) :
    number.isValidChar := by
  rw [Nat.isValidChar]
  cases spells with
  | one small value => rw [single_iff] at small; omega
  | two start value => omega
  | three start third value => rw [leads_two_iff] at start; omega
  | four start third fourth value => rw [leads_three_iff] at start; omega

theorem Spells.exists_char {bytes : List UInt8} {number : Nat} (spells : Spells bytes number) :
    ∃ c : Char, c.toNat = number ∧ String.utf8EncodeChar c = bytes :=
  ⟨Char.ofNatAux number spells.isValidChar, rfl, utf8EncodeChar_of_spells spells⟩

/-! ## What decoding is -/

def BeginsChar (bytes : List UInt8) : Prop :=
  ∃ c : Char, bytes <+: String.utf8EncodeChar c

/-- A part before `rest` that is taken out as invalid. No character stands where it starts. It is the
longest part there that begins one, or a single byte if there is no such part. -/
structure Invalid (part rest : List UInt8) : Prop where
  nonempty : part ≠ []
  noChar : ∀ c : Char, ¬ String.utf8EncodeChar c <+: part ++ rest
  begins : BeginsChar part ∨ ∃ byte, part = [byte]
  longest : ∀ next ∈ rest.head?, ¬ BeginsChar (part ++ [next])

inductive Decoding : List UInt8 → List Char → Prop where
  | nil : Decoding [] []
  | char (c : Char) {rest : List UInt8} {text : List Char} (later : Decoding rest text) :
      Decoding (String.utf8EncodeChar c ++ rest) (c :: text)
  | invalid {part rest : List UInt8} {text : List Char} (cut : Invalid part rest)
      (later : Decoding rest text) : Decoding (part ++ rest) (replacement :: text)

theorem decoding_encode (text : List Char) : Decoding (encode text) text := by
  induction text with
  | nil => exact .nil
  | cons c text ih => exact .char c ih

theorem exists_invalid {part rest : List UInt8} (nonempty : part ≠ [])
    (noChar : ∀ c : Char, ¬ String.utf8EncodeChar c <+: part ++ rest)
    (begins : BeginsChar part ∨ ∃ byte, part = [byte]) :
    ∃ part' rest', part' ++ rest' = part ++ rest ∧ Invalid part' rest' := by
  induction rest generalizing part with
  | nil => exact ⟨part, [], rfl, nonempty, noChar, begins, by simp⟩
  | cons next rest ih =>
      by_cases longer : BeginsChar (part ++ [next])
      · rw [List.append_cons part next rest] at noChar ⊢
        exact ih (by simp) noChar (.inl longer)
      · refine ⟨part, next :: rest, rfl, nonempty, noChar, begins, ?_⟩
        simpa using longer

theorem exists_decoding (bytes : List UInt8) : ∃ text, Decoding bytes text := by
  induction size : bytes.length using Nat.strong_induction_on generalizing bytes with
  | _ size ih =>
    have later {front rest : List UInt8} (nonempty : front ≠ []) (same : front ++ rest = bytes) :
        ∃ text, Decoding rest text := by
      have positive := List.length_pos_iff.mpr nonempty
      refine ih rest.length ?_ rest rfl
      rw [← size, ← same, List.length_append]
      omega
    cases bytes with
    | nil => exact ⟨[], .nil⟩
    | cons byte more =>
        by_cases starts : ∃ c : Char, String.utf8EncodeChar c <+: byte :: more
        · obtain ⟨c, rest, same⟩ := starts
          obtain ⟨text, decoding⟩ := later String.utf8EncodeChar_ne_nil same
          exact ⟨c :: text, same ▸ .char c decoding⟩
        · obtain ⟨part, rest, same, cut⟩ :=
            exists_invalid (List.cons_ne_nil byte []) (not_exists.mp starts) (.inr ⟨byte, rfl⟩)
          obtain ⟨text, decoding⟩ := later cut.nonempty same
          have decoding : Decoding ([byte] ++ more) (replacement :: text) :=
            same ▸ .invalid cut decoding
          exact ⟨replacement :: text, decoding⟩

/-! ## What the decoder waits for -/

inductive Completes : Pending → List UInt8 → Nat → Prop where
  | single {byte : UInt8} (small : byte ≤ 0x7F) : Completes .nothing [byte] byte.toNat
  | lead {byte low high : UInt8} {count : Nat} {more : List UInt8} {number : Nat}
      (follows : follows? byte = some (count, low, high))
      (later : Completes (.sequence (leadBits byte) (count - 1) low high) more number) :
      Completes .nothing (byte :: more) number
  | last {value : Nat} {byte low high : UInt8} (inside : low ≤ byte ∧ byte ≤ high) :
      Completes (.sequence value 0 low high) [byte] (value * 64 + byte.toNat % 64)
  | next {value need : Nat} {byte low high : UInt8} {more : List UInt8} {number : Nat}
      (inside : low ≤ byte ∧ byte ≤ high)
      (later : Completes (.sequence (value * 64 + byte.toNat % 64) need 0x80 0xBF) more number) :
      Completes (.sequence value (need + 1) low high) (byte :: more) number

theorem leads_of_follows? {lead second low high : UInt8} {count : Nat}
    (follows : follows? lead = some (count, low, high)) (inside : low ≤ second ∧ second ≤ high) :
    Leads count lead second := by
  rw [follows?] at follows
  grind [Leads, IsTrail]

theorem follows?_of_leads {lead second : UInt8} {count : Nat} (leads : Leads count lead second) :
    ∃ low high, follows? lead = some (count, low, high) ∧ low ≤ second ∧ second ≤ high := by
  rw [follows?]
  match count with
  | 1 | 2 | 3 =>
    rw [Leads, IsTrail] at leads
    grind

theorem follows?_cases {lead low high : UInt8} {count : Nat}
    (follows : follows? lead = some (count, low, high)) :
    0x80 ≤ lead ∧ low ≤ high ∧ (count = 1 ∨ count = 2 ∨ count = 3) := by
  rw [follows?] at follows
  refine ⟨?_, ?_, ?_⟩ <;> grind

theorem leadBits_two {lead second : UInt8} (leads : Leads 1 lead second) :
    leadBits lead = lead.toNat % 32 := by
  rw [Leads] at leads
  grind [leadBits]

theorem leadBits_three {lead second : UInt8} (leads : Leads 2 lead second) :
    leadBits lead = lead.toNat % 16 := by
  rw [Leads] at leads
  grind [leadBits]

theorem leadBits_four {lead second : UInt8} (leads : Leads 3 lead second) :
    leadBits lead = lead.toNat % 8 := by
  rw [Leads] at leads
  grind [leadBits]

theorem completes_of_spells {bytes : List UInt8} {number : Nat} (spells : Spells bytes number) :
    Completes .nothing bytes number := by
  cases spells with
  | one small value => exact value ▸ .single small
  | two start value =>
      obtain ⟨low, high, follows, inside⟩ := follows?_of_leads start
      rw [value, ← leadBits_two start]
      exact .lead follows (.last inside)
  | three start third value =>
      obtain ⟨low, high, follows, inside⟩ := follows?_of_leads start
      rw [value, ← leadBits_three start]
      exact .lead follows (.next inside (.last third))
  | four start third fourth value =>
      obtain ⟨low, high, follows, inside⟩ := follows?_of_leads start
      rw [value, ← leadBits_four start]
      exact .lead follows (.next inside (.next third (.last fourth)))

theorem spells_of_completes {bytes : List UInt8} {number : Nat}
    (completes : Completes .nothing bytes number) : Spells bytes number := by
  cases completes with
  | single small => exact .one small rfl
  | lead follows later =>
      obtain ⟨-, -, rfl | rfl | rfl⟩ := follows?_cases follows
      · cases later with
        | last inside =>
            have start := leads_of_follows? follows inside
            exact .two start (by rw [leadBits_two start])
      · cases later with
        | next inside later =>
            have start := leads_of_follows? follows inside
            cases later with
            | last third => exact .three start third (by rw [leadBits_three start])
      · cases later with
        | next inside later =>
            have start := leads_of_follows? follows inside
            cases later with
            | next third later =>
                cases later with
                | last fourth => exact .four start third fourth (by rw [leadBits_four start])

theorem beginsChar_of_completes {part more : List UInt8} {number : Nat}
    (completes : Completes .nothing (part ++ more) number) : BeginsChar part := by
  obtain ⟨c, -, bytes⟩ := (spells_of_completes completes).exists_char
  exact ⟨c, more, bytes.symm⟩

theorem exists_completes_cons {value need : Nat} {byte low high : UInt8}
    (inside : low ≤ byte ∧ byte ≤ high) :
    ∃ more number, Completes (.sequence value need low high) (byte :: more) number := by
  induction need generalizing value byte low high with
  | zero => exact ⟨[], _, .last inside⟩
  | succ need ih =>
      have trail : (0x80 : UInt8) ≤ 0x80 ∧ (0x80 : UInt8) ≤ 0xBF := by decide
      obtain ⟨more, number, later⟩ := ih trail
      exact ⟨0x80 :: more, number, .next inside later⟩

/-! ## The decoder at work -/

theorem feed_lead {byte low high : UInt8} {count : Nat}
    (follows : follows? byte = some (count, low, high)) :
    feed .nothing byte = ([], .sequence (leadBits byte) (count - 1) low high) := by
  have notSingle := UInt8.not_lt.mpr (follows?_cases follows).1
  simp [feed, startSequence, notSingle, follows]

theorem feed_next {value need : Nat} {byte low high : UInt8} (inside : low ≤ byte ∧ byte ≤ high) :
    feed (.sequence value (need + 1) low high) byte =
      ([], .sequence (value * 64 + byte.toNat % 64) need 0x80 0xBF) := by
  simp [feed, inside]

theorem decodeFrom_completes {pending : Pending} {bytes : List UInt8} {number : Nat}
    (completes : Completes pending bytes number) (rest : List UInt8) :
    decodeFrom pending (bytes ++ rest) = Char.ofNat number :: decodeFrom .nothing rest := by
  induction completes with
  | single small =>
      have single := UInt8.lt_of_le_of_lt small (show 0x7F < 0x80 by decide)
      simp [decodeFrom, feed, startSequence, single]
  | lead follows later ih => simp [decodeFrom, feed_lead follows, ih]
  | last inside => simp [decodeFrom, feed, inside]
  | next inside later ih => simp [decodeFrom, feed_next inside, ih]

theorem decodeFrom_char (c : Char) (rest : List UInt8) :
    decodeFrom .nothing (String.utf8EncodeChar c ++ rest) = c :: decodeFrom .nothing rest := by
  rw [decodeFrom_completes (completes_of_spells (spells_utf8EncodeChar c)), Char.ofNat_toNat]

theorem decodeFrom_rejected {value need : Nat} {low high : UInt8} {rest : List UInt8}
    (rejected : ∀ next ∈ rest.head?, ¬ (low ≤ next ∧ next ≤ high)) :
    decodeFrom (.sequence value need low high) rest =
      replacement :: decodeFrom .nothing rest := by
  cases rest with
  | nil => rfl
  | cons next rest =>
      have outside := rejected next rfl
      simp [decodeFrom, feed, outside]

/-- After a part of some bytes the decoder waits for what completes that part. -/
structure Awaits (part : List UInt8) (pending : Pending) : Prop where
  run : ∀ rest, decodeFrom .nothing (part ++ rest) = decodeFrom pending rest
  completes : ∀ {more : List UInt8} {number : Nat},
    Completes pending more number ↔ Completes .nothing (part ++ more) number

theorem Awaits.step {part : List UInt8} {pending next : Pending} {byte : UInt8}
    (awaits : Awaits part pending) (fed : feed pending byte = ([], next))
    (same : ∀ {more : List UInt8} {number : Nat},
      Completes next more number ↔ Completes pending (byte :: more) number) :
    Awaits (part ++ [byte]) next where
  run rest := by
    rw [List.append_assoc, List.singleton_append, awaits.run, decodeFrom, fed]
    rfl
  completes := by
    intro more number
    rw [List.append_assoc, List.singleton_append, same, awaits.completes]

theorem Awaits.next {part : List UInt8} {pending : Pending} (awaits : Awaits part pending)
    {byte : UInt8} {more : List UInt8} {number : Nat}
    (completes : Completes pending (byte :: more) number) (unfinished : more ≠ []) :
    ∃ value need low high, Awaits (part ++ [byte]) (.sequence value need low high) := by
  cases completes with
  | single small => contradiction
  | last inside => contradiction
  | lead follows later =>
      refine ⟨_, _, _, _, awaits.step (feed_lead follows) ⟨.lead follows, fun completes => ?_⟩⟩
      cases completes with
      | single small => exact absurd (UInt8.le_trans (follows?_cases follows).1 small) (by decide)
      | lead follows' later =>
          rw [follows] at follows'
          cases follows'
          exact later
  | next inside later =>
      refine ⟨_, _, _, _, awaits.step (feed_next inside) ⟨.next inside, fun completes => ?_⟩⟩
      cases completes with
      | next _ later => exact later

theorem exists_awaits {part more : List UInt8} {number : Nat} (nonempty : part ≠ [])
    (unfinished : more ≠ []) (completes : Completes .nothing (part ++ more) number) :
    ∃ value need low high, Awaits part (.sequence value need low high) := by
  induction part using List.reverseRecOn generalizing more with
  | nil => contradiction
  | append_singleton front byte ih =>
      rw [List.append_assoc, List.singleton_append] at completes
      by_cases start : front = []
      · subst start
        have awaits : Awaits [] .nothing := ⟨fun _ => rfl, Iff.rfl⟩
        exact awaits.next completes unfinished
      · obtain ⟨value, need, low, high, awaits⟩ := ih start (List.cons_ne_nil byte more) completes
        exact awaits.next (awaits.completes.mpr completes) unfinished

theorem decodeFrom_invalid {part rest : List UInt8} (cut : Invalid part rest) :
    decodeFrom .nothing (part ++ rest) = replacement :: decodeFrom .nothing rest := by
  by_cases begins : BeginsChar part
  · obtain ⟨c, more, same⟩ := begins
    have completes : Completes .nothing (part ++ more) c.toNat := by
      rw [same]
      exact completes_of_spells (spells_utf8EncodeChar c)
    have unfinished : more ≠ [] := by
      rintro rfl
      rw [List.append_nil] at same
      exact cut.noChar c (same ▸ List.prefix_append part rest)
    obtain ⟨value, need, low, high, awaits⟩ := exists_awaits cut.nonempty unfinished completes
    rw [awaits.run]
    refine decodeFrom_rejected fun next isNext inside => cut.longest next isNext ?_
    obtain ⟨later, number, completes⟩ := exists_completes_cons inside
    rw [awaits.completes, List.append_cons] at completes
    exact beginsChar_of_completes completes
  · obtain ⟨byte, rfl⟩ := cut.begins.resolve_left begins
    have notSingle : ¬ byte < 0x80 := fun small => by
      have single : Completes .nothing ([byte] ++ []) byte.toNat := .single (by grind)
      exact begins (beginsChar_of_completes single)
    have noLead : follows? byte = none := by
      cases follows : follows? byte with
      | none => rfl
      | some found =>
          obtain ⟨count, low, high⟩ := found
          have inside := (follows?_cases follows).2.1
          obtain ⟨more, number, later⟩ := exists_completes_cons ⟨UInt8.le_refl low, inside⟩
          have lead : Completes .nothing ([byte] ++ low :: more) number := .lead follows later
          exact absurd (beginsChar_of_completes lead) begins
    simp [decodeFrom, feed, startSequence, notSingle, noLead]

theorem decodeLossy_eq_iff {bytes : List UInt8} {text : List Char} :
    decodeLossy bytes = text ↔ Decoding bytes text := by
  have unique {text : List Char} (decoding : Decoding bytes text) : decodeLossy bytes = text := by
    rw [decodeLossy]
    induction decoding with
    | nil => rfl
    | char c later ih => rw [decodeFrom_char, ih]
    | invalid cut later ih => rw [decodeFrom_invalid cut, ih]
  refine ⟨?_, unique⟩
  rintro rfl
  obtain ⟨text, decoding⟩ := exists_decoding bytes
  rwa [unique decoding]

theorem decodeLossy_encode (text : List Char) : decodeLossy (encode text) = text :=
  decodeLossy_eq_iff.mpr (decoding_encode text)

theorem notMem_of_decoding {bytes : List UInt8} {text : List Char} (decoding : Decoding bytes text)
    {c : Char} (ascii : c.toNat < 0x80) (absent : UInt8.ofNat c.toNat ∉ bytes) : c ∉ text := by
  induction decoding with
  | nil => simp
  | char other later ih =>
      rw [List.mem_append, not_or] at absent
      rw [List.mem_cons, not_or]
      refine ⟨?_, ih absent.2⟩
      rintro rfl
      simp [utf8EncodeChar_ascii ascii] at absent
  | invalid cut later ih =>
      rw [List.mem_append, not_or] at absent
      rw [List.mem_cons, not_or]
      refine ⟨?_, ih absent.2⟩
      rintro rfl
      exact absurd ascii (by decide)

theorem notMem_decodeLossy {bytes : List UInt8} {c : Char} (ascii : c.toNat < 0x80)
    (absent : UInt8.ofNat c.toNat ∉ bytes) : c ∉ decodeLossy bytes :=
  notMem_of_decoding (decodeLossy_eq_iff.mp rfl) ascii absent

end HouseStyle.Text
