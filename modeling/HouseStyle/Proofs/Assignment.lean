import HouseStyle.Proofs.Decoding
import HouseStyle.Proofs.Trim
import HouseStyle.Rule.ErrorHandling

namespace HouseStyle

/-! ## Neighbours -/

def AmongNeighbours {α : Type} (fits : Option α → α → Option α → Prop) (previous : Option α)
    (items : List α) : Prop :=
  ∃ before item after, items = before ++ item :: after ∧
    fits (before.getLast?.or previous) item after.head?

theorem getLast?_cons_or {α : Type} (first : α) (rest : List α) (previous : Option α) :
    (first :: rest).getLast?.or previous = rest.getLast?.or (some first) := by
  rw [List.getLast?_cons, Option.some_or]
  cases rest.getLast? <;> rfl

theorem amongNeighbours_cons {α : Type} {fits : Option α → α → Option α → Prop}
    {previous : Option α} {first : α} {items : List α} :
    AmongNeighbours fits previous (first :: items) ↔
      fits previous first items.head? ∨ AmongNeighbours fits (some first) items := by
  constructor
  · rintro ⟨before, item, after, parts, fit⟩
    cases before with
    | nil =>
        obtain ⟨rfl, rfl⟩ := List.cons.inj parts
        exact .inl fit
    | cons other before =>
        obtain ⟨rfl, rfl⟩ := List.cons.inj parts
        rw [getLast?_cons_or] at fit
        exact .inr ⟨before, item, after, rfl, fit⟩
  · rintro (fit | ⟨before, item, after, rfl, fit⟩)
    · exact ⟨[], first, items, rfl, fit⟩
    · refine ⟨first :: before, item, after, rfl, ?_⟩
      rwa [getLast?_cons_or]

end HouseStyle

namespace HouseStyle.Line
open Text

/-! ## Bytes -/

theorem assignsAfter_cons {previous : Option UInt8} {byte : UInt8} {rest : List UInt8} :
    assignsAfter previous (byte :: rest) = true ↔
      (byte = equalsSign ∧ rest.head? ≠ some equalsSign ∧
        ∀ sign ∈ comparisonBytes, previous ≠ some sign) ∨
      assignsAfter (some byte) rest = true := by
  simp [assignsAfter, and_assoc]

theorem assignsAfter_some {byte : UInt8} (neutral : byte ∉ comparisonBytes) (bytes : List UInt8) :
    assignsAfter (some byte) bytes = assignsAfter none bytes := by
  cases bytes with
  | nil => rfl
  | cons first rest =>
      have noComparison : ∀ sign ∈ comparisonBytes, some byte ≠ some sign := by
        rintro sign member ⟨⟩
        exact neutral member
      have noByte : ∀ sign ∈ comparisonBytes, (none : Option UInt8) ≠ some sign := by simp
      rw [Bool.eq_iff_iff, assignsAfter_cons, assignsAfter_cons, iff_true_intro noComparison,
        iff_true_intro noByte]

theorem ne_equalsSign {byte : UInt8} (neutral : byte ∉ comparisonBytes) : byte ≠ equalsSign := by
  rintro rfl
  exact neutral (by decide)

theorem assignsAfter_append_left {front : List UInt8}
    (neutral : ∀ byte ∈ front, byte ∉ comparisonBytes) (bytes : List UInt8) :
    assignsAfter none (front ++ bytes) = assignsAfter none bytes := by
  induction front with
  | nil => rfl
  | cons byte front ih =>
      have neutralByte := neutral byte (by simp)
      rw [Bool.eq_iff_iff, List.cons_append, assignsAfter_cons, assignsAfter_some neutralByte,
        ih fun other member => neutral other (List.mem_cons_of_mem _ member)]
      simp [ne_equalsSign neutralByte]

theorem assignsAfter_eq_false {bytes : List UInt8} (none : equalsSign ∉ bytes)
    (previous : Option UInt8) : assignsAfter previous bytes = false := by
  induction bytes generalizing previous with
  | nil => rfl
  | cons byte rest ih =>
      rw [List.mem_cons, not_or] at none
      simp [assignsAfter, Ne.symm none.1, ih none.2]

theorem assignsAfter_append_right {back : List UInt8}
    (neutral : ∀ byte ∈ back, byte ∉ comparisonBytes) (previous : Option UInt8)
    (bytes : List UInt8) : assignsAfter previous (bytes ++ back) = assignsAfter previous bytes := by
  have noSign : equalsSign ∉ back := fun member => ne_equalsSign (neutral _ member) rfl
  induction bytes generalizing previous with
  | nil => rw [List.nil_append, assignsAfter_eq_false noSign, assignsAfter]
  | cons byte rest ih =>
      have next : (rest ++ back).head? = some equalsSign ↔ rest.head? = some equalsSign := by
        cases rest with
        | nil => exact iff_of_false (fun starts => noSign (List.mem_of_mem_head? starts)) (by simp)
        | cons first rest => rfl
      rw [Bool.eq_iff_iff, List.cons_append, assignsAfter_cons, assignsAfter_cons, ih, ne_eq, ne_eq,
        next]

/-! ## Blanks around a line -/

theorem comparison_notMem_encode {blanks : List Char}
    (blank : ∀ c ∈ blanks, Text.isBlank c = true) :
    ∀ byte ∈ encode blanks, byte ∉ comparisonBytes := by
  have neutral : ∀ c, Text.isBlank c = true →
      ∀ byte ∈ String.utf8EncodeChar c, byte ∉ comparisonBytes :=
    forall_isBlank (by decide +kernel)
  intro byte member
  obtain ⟨c, isBlank, inChar⟩ := List.mem_flatMap.mp member
  exact neutral c (blank c isBlank) byte inChar

theorem hasAssignment_trim (line : Line) : hasAssignment (trim line) = hasAssignment line := by
  obtain ⟨before, after, blankBefore, blankAfter, around⟩ := exists_around_trim line
  have bytes : encode line = encode before ++ (encode (trim line) ++ encode after) := by
    conv_lhs => rw [around]
    simp [encode]
  rw [hasAssignment, hasAssignment, bytes,
    assignsAfter_append_left (comparison_notMem_encode blankBefore),
    assignsAfter_append_right (comparison_notMem_encode blankAfter)]

/-! ## Characters -/

def comparisonSigns : List Char :=
  ['=', '!', '<', '>']

def isComparisonSign (c : Char) : Bool :=
  comparisonSigns.contains c

theorem encode_cons_ascii {c : Char} (ascii : c.toNat < 0x80) (text : List Char) :
    encode (c :: text) = UInt8.ofNat c.toNat :: encode text := by
  rw [encode, List.flatMap_cons, utf8EncodeChar_ascii ascii]
  rfl

theorem ofNat_eq_ofNat_iff {c sign : Char} (ascii : c.toNat < 0x80) (asciiSign : sign.toNat < 0x80) :
    UInt8.ofNat c.toNat = UInt8.ofNat sign.toNat ↔ c = sign := by
  rw [ofNat_eq_iff, UInt8.toNat_ofNat', ← Char.toNat_inj]
  omega

theorem isEquals_iff {c : Char} (ascii : c.toNat < 0x80) :
    UInt8.ofNat c.toNat = equalsSign ↔ c = '=' := by
  have sign : equalsSign = UInt8.ofNat '='.toNat := rfl
  rw [sign, ofNat_eq_ofNat_iff ascii (by decide)]

theorem ascii_of_isComparisonSign {c : Char} (isSign : isComparisonSign c = true) :
    c.toNat < 0x80 := by
  have table : ∀ sign ∈ comparisonSigns, sign.toNat < 0x80 := by simp [comparisonSigns]
  exact table c (List.contains_iff_mem.mp isSign)

theorem mem_comparisonBytes_iff {c : Char} (ascii : c.toNat < 0x80) :
    UInt8.ofNat c.toNat ∈ comparisonBytes ↔ isComparisonSign c = true := by
  have table : comparisonBytes = comparisonSigns.map fun sign => UInt8.ofNat sign.toNat := by decide
  rw [table, List.mem_map, isComparisonSign, List.contains_iff_mem]
  constructor
  · rintro ⟨sign, isSign, same⟩
    have asciiSign := ascii_of_isComparisonSign (List.contains_iff_mem.mpr isSign)
    rwa [← (ofNat_eq_ofNat_iff asciiSign ascii).mp same]
  · exact fun isSign => ⟨c, isSign, rfl⟩

theorem le_of_mem_utf8EncodeChar {c : Char} (foreign : 0x80 ≤ c.toNat) {byte : UInt8}
    (member : byte ∈ String.utf8EncodeChar c) : 0x80 ≤ byte.toNat := by
  have spells := spells_utf8EncodeChar c
  generalize String.utf8EncodeChar c = bytes at member spells
  cases spells with
  | one small value =>
      rw [single_iff] at small
      omega
  | two start value =>
      rw [leads_one_iff] at start
      grind
  | three start third value =>
      rw [leads_two_iff] at start
      rw [isTrail_iff] at third
      grind
  | four start third fourth value =>
      rw [leads_three_iff] at start
      rw [isTrail_iff] at third fourth
      grind

theorem foreign_notMem {c : Char} (foreign : 0x80 ≤ c.toNat) :
    ∀ byte ∈ String.utf8EncodeChar c, byte ∉ comparisonBytes := by
  have table : ∀ byte ∈ comparisonBytes, byte.toNat < 0x80 := by simp [comparisonBytes]
  intro byte member isComparison
  exact Nat.not_lt.mpr (le_of_mem_utf8EncodeChar foreign member) (table byte isComparison)

theorem encode_append (text more : List Char) : encode (text ++ more) = encode text ++ encode more :=
  List.flatMap_append

theorem encode_singleton (c : Char) : encode [c] = String.utf8EncodeChar c := by
  rw [encode, List.flatMap_singleton]

theorem eq_of_mem_utf8EncodeChar {c : Char} (member : equalsSign ∈ String.utf8EncodeChar c) :
    c = '=' := by
  by_cases ascii : c.toNat < 0x80
  · rw [utf8EncodeChar_ascii ascii, List.mem_singleton] at member
    exact (isEquals_iff ascii).mp member.symm
  · have neutral := foreign_notMem (Nat.le_of_not_lt ascii) equalsSign member
    exact absurd (show equalsSign ∈ comparisonBytes by decide) neutral

theorem head?_encode_iff (text : List Char) :
    (encode text).head? = some equalsSign ↔ text.head? = some '=' := by
  cases text with
  | nil => simp [encode]
  | cons c text =>
      constructor
      · intro starts
        rw [encode, List.flatMap_cons, List.head?_append_of_ne_nil _ String.utf8EncodeChar_ne_nil]
          at starts
        rw [eq_of_mem_utf8EncodeChar (List.mem_of_mem_head? starts), List.head?_cons]
      · rintro ⟨rfl⟩
        rw [encode_cons_ascii (by decide)]
        rfl

theorem encode_eq_append_cons_iff {text : List Char} {front back : List UInt8} :
    encode text = front ++ equalsSign :: back ↔ ∃ before after, text = before ++ '=' :: after ∧
      encode before = front ∧ encode after = back := by
  constructor
  · intro bytes
    induction text generalizing front with
    | nil => simp [encode] at bytes
    | cons c text ih =>
        have onwards {later : List UInt8} (parts : front = String.utf8EncodeChar c ++ later)
            (rest : encode text = later ++ equalsSign :: back) : ∃ before after,
              c :: text = before ++ '=' :: after ∧ encode before = front ∧ encode after = back := by
          obtain ⟨before, after, rfl, rfl, rfl⟩ := ih rest
          exact ⟨c :: before, after, rfl, parts.symm, rfl⟩
        rcases List.append_eq_append_iff.mp bytes with ⟨later, parts, rest⟩ | ⟨others, char, rest⟩
        · exact onwards parts rest
        · cases others with
          | nil =>
              have parts : front = String.utf8EncodeChar c ++ [] := by
                rw [char, List.append_nil, List.append_nil]
              exact onwards parts rest.symm
          | cons sign others =>
              -- The sign is a byte of this character, so it is all of it.
              obtain ⟨rfl, rfl⟩ := List.cons.inj rest
              obtain rfl := eq_of_mem_utf8EncodeChar (char ▸ List.mem_append_right front (by simp))
              have alone : [equalsSign] = front ++ equalsSign :: others := char
              obtain ⟨rfl, rfl⟩ : front = [] ∧ others = [] := by
                cases front <;> simp_all
              exact ⟨[], text, rfl, rfl, rfl⟩
  · rintro ⟨before, after, rfl, rfl, rfl⟩
    rw [encode_append, encode_cons_ascii (by decide)]
    rfl

theorem getLast_mem_comparisonBytes_iff (c : Char) :
    (String.utf8EncodeChar c).getLast String.utf8EncodeChar_ne_nil ∈ comparisonBytes ↔
      c ∈ comparisonSigns := by
  by_cases ascii : c.toNat < 0x80
  · have byte : (String.utf8EncodeChar c).getLast String.utf8EncodeChar_ne_nil =
        UInt8.ofNat c.toNat := by
      simp only [utf8EncodeChar_ascii ascii, List.getLast_singleton]
    rw [byte, mem_comparisonBytes_iff ascii, isComparisonSign, List.contains_iff_mem]
  · refine iff_of_false (foreign_notMem (Nat.le_of_not_lt ascii) _ (List.getLast_mem _)) ?_
    exact fun isSign => ascii (ascii_of_isComparisonSign (List.contains_iff_mem.mpr isSign))

theorem getLast?_encode_iff (text : List Char) :
    (∀ byte ∈ comparisonBytes, (encode text).getLast? ≠ some byte) ↔
      ∀ sign ∈ comparisonSigns, text.getLast? ≠ some sign := by
  cases text using List.reverseRecOn with
  | nil => simp [encode]
  | append_singleton text c =>
      rw [encode_append, encode_singleton, List.getLast?_append_of_ne_nil _ String.utf8EncodeChar_ne_nil,
        List.getLast?_concat, List.getLast?_eq_some_getLast String.utf8EncodeChar_ne_nil]
      simp only [ne_eq, Option.some.injEq, List.forall_mem_ne, getLast_mem_comparisonBytes_iff]

/-! ## Places -/

def Assigns (previous : Option UInt8) (byte : UInt8) (next : Option UInt8) : Prop :=
  byte = equalsSign ∧ next ≠ some equalsSign ∧ ∀ sign ∈ comparisonBytes, previous ≠ some sign

instance (previous : Option UInt8) (byte : UInt8) (next : Option UInt8) :
    Decidable (Assigns previous byte next) :=
  inferInstanceAs (Decidable (_ ∧ _ ∧ _))

theorem assignsAfter_iff_amongNeighbours (previous : Option UInt8) (bytes : List UInt8) :
    assignsAfter previous bytes = true ↔ AmongNeighbours Assigns previous bytes := by
  induction bytes generalizing previous with
  | nil => simp [assignsAfter, AmongNeighbours]
  | cons byte rest ih => rw [assignsAfter_cons, amongNeighbours_cons, ih, Assigns]

/-- The byte before a place, if the place is not the first one. There is no answer if the index is
outside the bytes. -/
def byteBefore? (bytes : List UInt8) : Nat → Option (Option UInt8)
  | 0 => some none
  | place + 1 => bytes[place]?.map some

/-- The test of the byte at one place. There is no answer if an index is outside the bytes; only the
byte after the place may be missing. -/
def assignsAt? (bytes : List UInt8) (place : Nat) : Option Bool :=
  bytes[place]?.bind fun byte =>
    if byte = equalsSign then
      (byteBefore? bytes place).map fun previous =>
        bytes[place + 1]? ≠ some equalsSign && !comparisonBytes.any (previous = some ·)
    else some false

/-- The search by places, up to the first one that passes the test. There is no answer if an index is
outside the bytes. -/
def hasAssignment? (line : Line) : Option Bool :=
  (List.range (encode line).length).anyM (assignsAt? (encode line))

theorem byteBefore?_length (front back : List UInt8) :
    byteBefore? (front ++ back) front.length = some front.getLast? := by
  cases front using List.reverseRecOn with
  | nil => rfl
  | append_singleton front last => simp [byteBefore?]

theorem assignsAt?_append_cons (front : List UInt8) (byte : UInt8) (back : List UInt8) :
    assignsAt? (front ++ byte :: back) front.length =
      some (decide (Assigns front.getLast? byte back.head?)) := by
  have here : (front ++ byte :: back)[front.length]? = some byte := by simp
  have next : (front ++ byte :: back)[front.length + 1]? = back.head? := by
    rw [List.getElem?_append_right (Nat.le_add_right _ 1), Nat.add_sub_cancel_left,
      List.getElem?_cons_succ, List.head?_eq_getElem?]
  rw [assignsAt?, here, Option.bind_some, next, byteBefore?_length]
  by_cases equals : byte = equalsSign
  · rw [if_pos equals, Option.map_some, Option.some.injEq, Bool.eq_iff_iff]
    simp [Assigns, equals]
  · simp [Assigns, equals]

theorem exists_append_cons {bytes : List UInt8} {place : Nat} (inside : place < bytes.length) :
    ∃ front byte back, bytes = front ++ byte :: back ∧ front.length = place := by
  refine ⟨bytes.take place, bytes[place], bytes.drop (place + 1), ?_, List.length_take_of_le inside.le⟩
  rw [← List.drop_eq_getElem_cons inside, List.take_append_drop]

theorem isSome_assignsAt? {bytes : List UInt8} {place : Nat} (inside : place < bytes.length) :
    (assignsAt? bytes place).isSome = true := by
  obtain ⟨front, byte, back, rfl, rfl⟩ := exists_append_cons inside
  rw [assignsAt?_append_cons]
  rfl

theorem lt_of_assignsAt? {bytes : List UInt8} {place : Nat} {answer : Bool}
    (tested : assignsAt? bytes place = some answer) : place < bytes.length := by
  by_contra outside
  rw [assignsAt?, List.getElem?_eq_none (Nat.le_of_not_lt outside)] at tested
  contradiction

theorem assignsAt?_eq_true_iff {bytes : List UInt8} {place : Nat} :
    assignsAt? bytes place = some true ↔ ∃ front byte back, bytes = front ++ byte :: back ∧
      front.length = place ∧ Assigns front.getLast? byte back.head? := by
  constructor
  · intro found
    obtain ⟨front, byte, back, rfl, rfl⟩ := exists_append_cons (lt_of_assignsAt? found)
    rw [assignsAt?_append_cons, Option.some.injEq, decide_eq_true_eq] at found
    exact ⟨front, byte, back, rfl, rfl, found⟩
  · rintro ⟨front, byte, back, rfl, rfl, assigns⟩
    rw [assignsAt?_append_cons, decide_eq_true assigns]

theorem hasAssignment_iff_place (line : Line) :
    hasAssignment line = true ↔ ∃ place, assignsAt? (encode line) place = some true := by
  rw [hasAssignment, assignsAfter_iff_amongNeighbours]
  simp only [AmongNeighbours, assignsAt?_eq_true_iff, Option.or_none]
  constructor
  · rintro ⟨front, byte, back, parts, assigns⟩
    exact ⟨front.length, front, byte, back, parts, rfl, assigns⟩
  · rintro ⟨_, front, byte, back, parts, -, assigns⟩
    exact ⟨front, byte, back, parts, assigns⟩

theorem anyM_eq_some {α : Type} {test? : α → Option Bool} {items : List α}
    (total : ∀ item ∈ items, (test? item).isSome = true) :
    items.anyM test? = some (items.any fun item => test? item = some true) := by
  induction items with
  | nil => rfl
  | cons item rest ih =>
      rw [List.forall_mem_cons] at total
      obtain ⟨answer, tested⟩ := Option.isSome_iff_exists.mp total.1
      cases answer <;> simp [List.anyM, tested, ih total.2]

theorem hasAssignment?_eq (line : Line) : hasAssignment? line = some (hasAssignment line) := by
  rw [hasAssignment?, anyM_eq_some fun place inside => isSome_assignsAt? (List.mem_range.mp inside),
    Option.some.injEq, Bool.eq_iff_iff, List.any_eq_true, hasAssignment_iff_place]
  constructor
  · rintro ⟨place, -, found⟩
    exact ⟨place, of_decide_eq_true found⟩
  · rintro ⟨place, found⟩
    exact ⟨place, List.mem_range.mpr (lt_of_assignsAt? found), decide_eq_true found⟩

/-! ## What the search finds -/

/-- An equals sign between these two parts of a line belongs to no comparison. -/
structure StandsAlone (before after : Line) : Prop where
  ends : after.head? ≠ some '='
  starts : ∀ sign ∈ comparisonSigns, before.getLast? ≠ some sign

theorem standsAlone_iff {before after : Line} : StandsAlone before after ↔
    Assigns (encode before).getLast? equalsSign (encode after).head? := by
  rw [Assigns, ne_eq, head?_encode_iff, getLast?_encode_iff]
  exact ⟨fun alone => ⟨rfl, alone.ends, alone.starts⟩, fun ⟨_, ends, starts⟩ => ⟨ends, starts⟩⟩

theorem assignsAt?_encode_iff {line : Line} {place : Nat} :
    assignsAt? (encode line) place = some true ↔ ∃ before after, line = before ++ '=' :: after ∧
      (encode before).length = place ∧ StandsAlone before after := by
  rw [assignsAt?_eq_true_iff]
  constructor
  · rintro ⟨front, byte, back, parts, rfl, assigns⟩
    obtain rfl : byte = equalsSign := assigns.1
    obtain ⟨before, after, rfl, rfl, rfl⟩ := encode_eq_append_cons_iff.mp parts
    exact ⟨before, after, rfl, rfl, standsAlone_iff.mpr assigns⟩
  · rintro ⟨before, after, parts, rfl, alone⟩
    exact ⟨encode before, equalsSign, encode after,
      encode_eq_append_cons_iff.mpr ⟨before, after, parts, rfl, rfl⟩, rfl, standsAlone_iff.mp alone⟩

theorem assignsAt?_foreign {before after : Line} {c : Char} (foreign : 0x80 ≤ c.toNat) {offset : Nat}
    (inside : offset < (String.utf8EncodeChar c).length) :
    assignsAt? (encode (before ++ c :: after)) ((encode before).length + offset) = some false := by
  have byte : (encode (before ++ c :: after))[(encode before).length + offset]? =
      some (String.utf8EncodeChar c)[offset] := by
    rw [encode_append, List.getElem?_append_right (Nat.le_add_right _ _), Nat.add_sub_cancel_left,
      encode, List.flatMap_cons, List.getElem?_append_left inside, List.getElem?_eq_getElem inside]
  have neutral := foreign_notMem foreign _ (List.getElem_mem inside)
  rw [assignsAt?, byte, Option.bind_some, if_neg (ne_equalsSign neutral)]

/-- An equals sign stands among the characters that belongs to no comparison, where `previous` is the
character before them. -/
def signsAfter (previous : Option Char) : List Char → Bool
  | [] => false
  | c :: rest =>
    (c = '=' && rest.head? ≠ some '=' && !previous.any isComparisonSign) || signsAfter (some c) rest

theorem signsAfter_cons {previous : Option Char} {c : Char} {rest : List Char} :
    signsAfter previous (c :: rest) = true ↔
      (c = '=' ∧ rest.head? ≠ some '=' ∧ previous.any isComparisonSign = false) ∨
      signsAfter (some c) rest = true := by
  simp only [signsAfter, Bool.or_eq_true, Bool.and_eq_true, decide_eq_true_eq, Bool.not_eq_true',
    and_assoc]

theorem signsAfter_iff_amongNeighbours (previous : Option Char) (text : List Char) :
    signsAfter previous text = true ↔ AmongNeighbours (fun previous c next =>
      c = '=' ∧ next ≠ some '=' ∧ previous.any isComparisonSign = false) previous text := by
  induction text generalizing previous with
  | nil => simp [signsAfter, AmongNeighbours]
  | cons c rest ih => rw [signsAfter_cons, amongNeighbours_cons, ih]

theorem any_isComparisonSign_iff (previous : Option Char) : previous.any isComparisonSign = false ↔
    ∀ sign ∈ comparisonSigns, previous ≠ some sign := by
  cases previous with
  | none => simp
  | some c =>
      rw [Option.any_some, ← Bool.not_eq_true, isComparisonSign, List.contains_iff_mem]
      simp only [ne_eq, Option.some.injEq, List.forall_mem_ne]

theorem hasAssignment_iff_standsAlone (line : Line) : hasAssignment line = true ↔
    ∃ before after, line = before ++ '=' :: after ∧ StandsAlone before after := by
  rw [hasAssignment_iff_place]
  simp only [assignsAt?_encode_iff]
  constructor
  · rintro ⟨_, before, after, parts, -, alone⟩
    exact ⟨before, after, parts, alone⟩
  · rintro ⟨before, after, parts, alone⟩
    exact ⟨(encode before).length, before, after, parts, rfl, alone⟩

theorem hasAssignment_eq_signsAfter (line : Line) : hasAssignment line = signsAfter none line := by
  rw [Bool.eq_iff_iff, hasAssignment_iff_standsAlone, signsAfter_iff_amongNeighbours]
  simp only [AmongNeighbours, Option.or_none, any_isComparisonSign_iff]
  constructor
  · rintro ⟨before, after, parts, alone⟩
    exact ⟨before, '=', after, parts, rfl, alone.ends, alone.starts⟩
  · rintro ⟨before, _, after, parts, rfl, ends, starts⟩
    exact ⟨before, after, parts, ends, starts⟩

/-- The search among bytes is right for every text. It finds an assignment exactly if one of the
characters is an equals sign with no equals sign after it and no sign of a comparison before it. The
bytes pass the test at the places of these characters and nowhere else, so in particular at no byte of a
character beyond ASCII. And no index leaves the bytes. -/
theorem hasAssignment_exact (line : Line) :
    (hasAssignment line = true ↔
      ∃ before after, line = before ++ '=' :: after ∧ StandsAlone before after) ∧
    (∀ place, assignsAt? (encode line) place = some true ↔ ∃ before after,
      line = before ++ '=' :: after ∧ (encode before).length = place ∧ StandsAlone before after) ∧
    (∀ before c after, line = before ++ c :: after → 0x80 ≤ c.toNat →
      ∀ offset < (String.utf8EncodeChar c).length,
        assignsAt? (encode line) ((encode before).length + offset) = some false) ∧
    (∀ place < (encode line).length, (assignsAt? (encode line) place).isSome = true) ∧
    hasAssignment? line = some (hasAssignment line) := by
  refine ⟨hasAssignment_iff_standsAlone line, fun place => assignsAt?_encode_iff, ?_, ?_,
    hasAssignment?_eq line⟩
  · rintro before c after rfl foreign offset inside
    exact assignsAt?_foreign foreign inside
  · intro place inside
    exact isSome_assignsAt? inside

theorem hasAssignment_exact_wide :
    let line := "é≠=x😀".toList
    hasAssignment line = true ∧ assignsAt? (encode line) 5 = some true ∧
    line = "é".toList ++ '≠' :: "=x😀".toList ∧ 0x80 ≤ '≠'.toNat ∧
    assignsAt? (encode line) 4 = some false := by
  intro line
  have search := hasAssignment_exact line
  have parts : line = "é≠".toList ++ '=' :: "x😀".toList := by decide
  have alone : StandsAlone "é≠".toList "x😀".toList := ⟨by decide, by simp [comparisonSigns]⟩
  have wide : line = "é".toList ++ '≠' :: "=x😀".toList := by decide
  exact ⟨search.1.mpr ⟨_, _, parts, alone⟩, (search.2.1 5).mpr ⟨_, _, parts, by decide, alone⟩, wide,
    by decide, search.2.2.1 _ _ _ wide (by decide) 2 (by decide)⟩

end HouseStyle.Line
