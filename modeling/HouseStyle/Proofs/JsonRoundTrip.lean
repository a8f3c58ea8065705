import HouseStyle.Json.Parse
import HouseStyle.Proofs.Reader

/-!
# Written JSON can be read

What `write` writes, `valueTo` reads, and nothing of the text that follows is lost:

* `quotedText_quoted`: a quoted text is read back, whatever characters it holds.
* `numeral_toDigits`: a number is read back, if what follows cannot be a part of it.
* `separated_entries`: items on lines of their own are read one by one, up to the closing bracket.
* `valueTo_write`: by induction on the value, everything that `write` keeps apart is read back.
-/

namespace HouseStyle.Json
open Text Text.Reader

/-! ## Spaces -/

theorem spaces_append {pad rest : List Char} (blank : ∀ c ∈ pad, isSpace c = true)
    (stop : ∀ c ∈ rest.head?, isSpace c = false) : spaces (pad ++ rest) = some ((), rest) :=
  bind_eq (run_append blank stop)

theorem spaces_eq (text : List Char) : spaces text = some ((), text.dropWhile isSpace) := rfl

theorem spaces_cons {c : Char} (solid : isSpace c = false) (rest : List Char) :
    spaces (c :: rest) = some ((), c :: rest) := by
  rw [spaces_eq, List.dropWhile_cons_of_neg (by simp [solid])]

theorem isSpace_newLine (level : Nat) : ∀ c ∈ newLine level, isSpace c = true := by
  intro c member
  simp only [newLine, List.mem_cons, List.mem_replicate] at member
  rcases member with rfl | ⟨-, rfl⟩ <;> decide

/-! ## Strings -/

theorem pieces_plain {c : Char} (noQuote : c ≠ '"') (noEscape : c ≠ '\\')
    (visible : 0x20 ≤ c.toNat) (rest : List Char) :
    pieces (c :: rest) = prepend (.char c) (pieces rest) := by
  rw [pieces]
  · rw [if_neg (by omega)]
  · exact noQuote
  · intro _ _ _ _ _ same
    exact absurd same noEscape
  · intro _ _ same
    exact absurd same noEscape

theorem pieces_escaped {letter c : Char} (short : escaped? letter = some c) (rest : List Char) :
    pieces ('\\' :: letter :: rest) = prepend (.char c) (pieces rest) := by
  rw [pieces]
  · rw [short]
    rfl
  · rintro a b c d tail rfl -
    simp [escaped?] at short

theorem pieces_unit {a b c d : Char} {number : Nat} (digits : unit? a b c d = some number)
    (rest : List Char) :
    pieces ('\\' :: 'u' :: a :: b :: c :: d :: rest) = prepend (.unit number) (pieces rest) := by
  rw [pieces, digits]
  rfl

theorem unit?_hexDigit {number : Nat} (control : number < 0x20) :
    unit? '0' '0' (hexDigit (number / 16)) (hexDigit (number % 16)) = some number := by
  revert number
  decide

theorem escapeChar_cases (c : Char) :
    (∃ letter, escapeChar c = ['\\', letter] ∧ escaped? letter = some c) ∨
    (escapeChar c = [c] ∧ c ≠ '"' ∧ c ≠ '\\' ∧ 0x20 ≤ c.toNat) ∨
    (escapeChar c = ['\\', 'u', '0', '0', hexDigit (c.toNat / 16), hexDigit (c.toNat % 16)] ∧
      c.toNat < 0x20) := by
  by_cases short : c = '"' ∨ c = '\\' ∨ c = '\x08' ∨ c = '\t' ∨ c = '\n' ∨ c = '\x0c' ∨ c = '\r'
  · left
    rcases short with rfl | rfl | rfl | rfl | rfl | rfl | rfl <;> exact ⟨_, rfl, rfl⟩
  · right
    simp only [not_or] at short
    by_cases visible : 0x20 ≤ c.toNat
    · left
      simp [escapeChar, short, visible]
    · right
      simp only [escapeChar, short, visible, if_false, true_and]
      omega

theorem text?_unit {number : Nat} (control : number < 0x20) (more : List Piece) :
    text? (.unit number :: more) = (text? more).map (Char.ofNat number :: ·) := by
  have noHigh : isHighSurrogate number = false := by
    simp only [isHighSurrogate, Bool.and_eq_false_iff, decide_eq_false_iff_not]
    omega
  have noLow : isLowSurrogate number = false := by
    simp only [isLowSurrogate, Bool.and_eq_false_iff, decide_eq_false_iff_not]
    omega
  cases more with
  | nil => simp [text?, noHigh, noLow]
  | cons piece more => cases piece <;> simp [text?, noHigh, noLow]

theorem pieces_escapeChar (c : Char) :
    ∃ piece, (∀ rest, pieces (escapeChar c ++ rest) = prepend piece (pieces rest)) ∧
      ∀ more, text? (piece :: more) = (text? more).map (c :: ·) := by
  rcases escapeChar_cases c with ⟨letter, form, short⟩ | ⟨form, noQuote, noEscape, visible⟩ |
    ⟨form, control⟩
  · refine ⟨.char c, fun rest => ?_, fun more => rfl⟩
    rw [form]
    exact pieces_escaped short rest
  · refine ⟨.char c, fun rest => ?_, fun more => rfl⟩
    rw [form]
    exact pieces_plain noQuote noEscape visible rest
  · refine ⟨.unit c.toNat, fun rest => ?_, fun more => ?_⟩
    · rw [form]
      exact pieces_unit (unit?_hexDigit control) rest
    · rw [text?_unit control, Char.ofNat_toNat]

theorem pieces_quoted (text rest : List Char) :
    ∃ read, pieces (text.flatMap escapeChar ++ '"' :: rest) = some (read, rest) ∧
      text? read = some text := by
  induction text with
  | nil => exact ⟨[], rfl, rfl⟩
  | cons c text ih =>
      obtain ⟨read, taken, meaning⟩ := ih
      obtain ⟨piece, takes, means⟩ := pieces_escapeChar c
      refine ⟨piece :: read, ?_, by rw [means, meaning]; rfl⟩
      rw [List.flatMap_cons, List.append_assoc, takes, taken]
      rfl

theorem quotedText_quoted (text : String) (rest : List Char) :
    quotedText (quoted text.toList ++ rest) = some (some text, rest) := by
  have shape : quoted text.toList ++ rest =
      '"' :: (text.toList.flatMap escapeChar ++ '"' :: rest) := by simp [quoted]
  obtain ⟨read, taken, meaning⟩ := pieces_quoted text.toList rest
  rw [shape, quotedText, bind_eq (char_cons _ _), bind_eq taken, pure_eq, meaning]
  simp

/-! ## Numbers -/

def Follows (tail : List Char) : Prop :=
  ∀ c ∈ tail.head?, c = ',' ∨ c = '\n'

theorem follows_cons {c : Char} (delimiter : c = ',' ∨ c = '\n') (rest : List Char) :
    Follows (c :: rest) := by
  rintro first ⟨⟩
  exact delimiter

theorem Follows.stops {tail : List Char} (follows : Follows tail) {test : Char → Bool}
    (comma : test ',' = false) (newLine : test '\n' = false) :
    ∀ c ∈ tail.head?, test c = false := by
  intro c isHead
  rcases follows c isHead with rfl | rfl
  · exact comma
  · exact newLine

theorem partAt_of_follows {tail : List Char} (follows : Follows tail) {starts : Char → Bool}
    (comma : starts ',' = false) (newLine : starts '\n' = false) (part : Reader (List Char)) :
    partAt starts part tail = some ([], tail) := by
  rw [partAt, bind_eq (peek_eq tail), if_neg, pure_eq]
  cases tail with
  | nil => simp
  | cons c rest => simpa using follows.stops comma newLine c rfl

theorem wholeDigits_toDigits (number : Nat) {tail : List Char} (follows : Follows tail) :
    wholeDigits (Nat.toDigits 10 number ++ tail) = some (Nat.toDigits 10 number, tail) := by
  have digits := run1_append (Nat.toDigits_ne_nil (b := 10) (n := number))
    (fun c => Nat.isDigit_of_mem_toDigits (by decide) (by decide)) (follows.stops rfl rfl)
  rw [wholeDigits, digits1, bind_eq digits, if_neg, pure_eq]
  simp only [Bool.and_eq_true, decide_eq_true_eq, not_and, not_not]
  intro zero
  rw [head?_toDigits_eq_zero zero, Nat.toDigits_zero]

theorem numeral_toDigits (number : Nat) {tail : List Char} (follows : Follows tail) :
    numeral (Nat.toDigits 10 number ++ tail) = some (.natural number, tail) := by
  have noSign : run (· = '-') (Nat.toDigits 10 number ++ tail) =
      some ([], Nat.toDigits 10 number ++ tail) := by
    obtain ⟨first, others, written, digit⟩ := toDigits_eq_cons number
    rw [written]
    refine run_stopped ?_
    rintro c ⟨⟩
    exact decide_eq_false fun same => by simp [same] at digit
  rw [numeral, bind_eq noSign, bind_eq (wholeDigits_toDigits number follows),
    bind_eq (partAt_of_follows follows rfl rfl _), bind_eq (partAt_of_follows follows rfl rfl _)]
  simp only [List.append_nil, digitsValue_toDigits]
  rfl

/-! ## Lists in brackets -/

section Entries

variable {α : Type} {item : Reader α} {written : α → List Char}

def ReadsEntry (item : Reader α) (part : List Char) (value : α) : Prop :=
  ∀ pad tail, (∀ c ∈ pad, isSpace c = true) → Follows tail →
    item (pad ++ (part ++ tail)) = some (value, tail.dropWhile isSpace)

def otherEntries (level : Nat) (written : α → List Char) (values : List α) (closing : List Char) :
    List Char :=
  values.flatMap (fun value => ',' :: newLine (level + 1) ++ written value) ++
    (newLine level ++ closing)

theorem follows_otherEntries (level : Nat) (values : List α) (closing : List Char) :
    Follows (otherEntries level written values closing) := by
  cases values with
  | nil => exact follows_cons (.inr rfl) _
  | cons value values => exact follows_cons (.inl rfl) _

theorem chain_otherEntries {level : Nat} {bracket : Char} (noComma : bracket ≠ ',')
    (solid : isSpace bracket = false) (rest : List Char) {values : List α}
    (reads : ∀ value ∈ values, ReadsEntry item (written value) value) :
    Chain (do char ','; item)
      ((otherEntries level written values (bracket :: rest)).dropWhile isSpace) values
      (bracket :: rest) := by
  induction values with
  | nil =>
      have atEnd : (newLine level ++ bracket :: rest).dropWhile isSpace = bracket :: rest :=
        dropWhile_run (isSpace_newLine level) (by rintro c ⟨⟩; exact solid)
      simp only [otherEntries, List.flatMap_nil, List.nil_append, atEnd]
      exact .stop (bind_eq_none (char_cons_of_ne noComma rest))
  | cons value values ih =>
      let others := otherEntries level written values (bracket :: rest)
      have shape : (otherEntries level written (value :: values) (bracket :: rest)).dropWhile
          isSpace = ',' :: (newLine (level + 1) ++ (written value ++ others)) := by
        simp [others, otherEntries, show isSpace ',' = false from rfl]
      have takes : (do char ','; item) (',' :: (newLine (level + 1) ++ (written value ++ others))) =
          some (value, others.dropWhile isSpace) := by
        rw [bind_eq (char_cons _ _)]
        exact reads value (by simp) _ _ (isSpace_newLine _) (follows_otherEntries _ _ _)
      have shorter := (List.dropWhile_sublist isSpace (l := others)).length_le
      rw [shape]
      refine .next takes ?_ (ih fun other member => reads other (by simp [member]))
      simp only [List.length_cons, List.length_append]
      omega

theorem separated_entries {level : Nat} {bracket : Char} (noComma : bracket ≠ ',')
    (solid : isSpace bracket = false) (rest : List Char) {first : α} {others : List α}
    (reads : ∀ value ∈ first :: others, ReadsEntry item (written value) value) :
    separated (char ',') item (written first ++ otherEntries level written others (bracket :: rest)) =
      some (first :: others, bracket :: rest) :=
  separated_of_chain (reads first (by simp) [] _ (by simp) (follows_otherEntries _ _ _))
    (chain_otherEntries noComma solid rest fun value member => reads value (by simp [member]))

end Entries

theorem bracketed_map {α : Type} (opening bracket : Char) (level : Nat) (written : α → List Char)
    (first : α) (others : List α) (rest : List Char) :
    bracketed opening bracket level ((first :: others).map written) ++ rest =
      opening :: (newLine (level + 1) ++
        (written first ++ otherEntries level written others (bracket :: rest))) := by
  simp [bracketed, intercalate_cons, otherEntries, List.flatMap_map]

theorem head?_bracketed (opening bracket : Char) (level : Nat) (parts : List (List Char))
    (rest : List Char) : (bracketed opening bracket level parts ++ rest).head? = some opening := by
  cases parts <;> rfl

theorem length_lt_bracketed (opening bracket : Char) (level : Nat) {part : List Char}
    {parts : List (List Char)} (member : part ∈ parts) :
    part.length < (bracketed opening bracket level parts).length := by
  obtain ⟨before, after, rfl⟩ := List.append_of_mem member
  cases before <;> simp [bracketed, intercalate_cons] <;> omega

/-! ## Values -/

/-- The values whose written form says all there is to them: no number is kept as it was once
written, and no string has lost its text. -/
inductive Readable : Json → Prop where
  | null : Readable .null
  | boolean (flag : Bool) : Readable (.boolean flag)
  | natural (number : Nat) : Readable (.natural number)
  | string (text : String) : Readable (.ofString text)
  | array {items : List Json} (all : ∀ item ∈ items, Readable item) : Readable (.array items)
  | object {members : List (Option String × Json)}
      (keys : ∀ member ∈ members, ∃ key, member.1 = some key)
      (all : ∀ member ∈ members, Readable member.2) : Readable (.object members)

theorem writeItems_eq (level : Nat) (items : List Json) :
    writeItems level items = items.map (write level) := by
  induction items with
  | nil => rfl
  | cons item items ih => rw [writeItems, ih, List.map_cons]

def writeMember (level : Nat) (member : Option String × Json) : List Char :=
  quoted (member.1.getD "").toList ++ ':' :: ' ' :: write level member.2

theorem writeMembers_eq (level : Nat) (members : List (Option String × Json)) :
    writeMembers level members = members.map (writeMember level) := by
  induction members with
  | nil => rfl
  | cons member members ih => rw [writeMembers, ih, List.map_cons, writeMember]

theorem write_eq_cons {value : Json} (readable : Readable value) (level : Nat) :
    ∃ first others, write level value = first :: others ∧ isSpace first = false ∧ first ≠ ']' := by
  cases readable with
  | null => exact ⟨_, _, rfl, rfl, by decide⟩
  | boolean flag => cases flag <;> exact ⟨_, _, rfl, rfl, by decide⟩
  | natural number =>
      obtain ⟨first, others, written, digit⟩ := toDigits_eq_cons number
      refine ⟨first, others, by simpa [write] using written, ?_, ?_⟩
      · simp only [isSpace, Bool.or_eq_false_iff, decide_eq_false_iff_not]
        refine ⟨⟨⟨?_, ?_⟩, ?_⟩, ?_⟩ <;> rintro rfl <;> simp at digit
      · rintro rfl
        simp at digit
  | string text => exact ⟨_, _, rfl, rfl, by decide⟩
  | array all =>
      rename_i items
      cases items <;> exact ⟨_, _, rfl, rfl, by decide⟩
  | object keys all =>
      rename_i members
      cases members <;> exact ⟨_, _, rfl, rfl, by decide⟩

def Reads (reader : Reader Json) (part : List Char) (value : Json) : Prop :=
  ∀ tail, Follows tail → reader (part ++ tail) = some (value, tail)

theorem spaces_write {value : Json} (readable : Readable value) (level : Nat) {pad : List Char}
    (blank : ∀ c ∈ pad, isSpace c = true) (tail : List Char) :
    spaces (pad ++ (write level value ++ tail)) = some ((), write level value ++ tail) := by
  obtain ⟨first, others, written, solid, -⟩ := write_eq_cons readable level
  refine spaces_append blank ?_
  rw [written]
  rintro c ⟨⟩
  exact solid

theorem readsEntry_item {reader : Reader Json} {value : Json} {level : Nat}
    (readable : Readable value) (reads : Reads reader (write level value) value) :
    ReadsEntry (do spaces; let item ← reader; spaces; pure item) (write level value) value := by
  intro pad tail blank follows
  rw [bind_eq (spaces_write readable level blank tail), bind_eq (reads tail follows),
    bind_eq (spaces_eq tail), pure_eq]

theorem readsEntry_member {reader : Reader Json} {key : String} {value : Json} {level : Nat}
    (readable : Readable value) (reads : Reads reader (write level value) value) :
    ReadsEntry (memberOf reader) (writeMember level (some key, value)) (some key, value) := by
  intro pad tail blank follows
  let afterKey := ':' :: ([' '] ++ (write level value ++ tail))
  have shape : writeMember level (some key, value) ++ tail = quoted key.toList ++ afterKey := by
    simp [writeMember, afterKey]
  have beforeKey : spaces (pad ++ (quoted key.toList ++ afterKey)) =
      some ((), quoted key.toList ++ afterKey) :=
    spaces_append blank (by rintro c ⟨⟩; rfl)
  rw [shape, memberOf, bind_eq beforeKey, bind_eq (quotedText_quoted key _),
    bind_eq (spaces_cons rfl _), bind_eq (char_cons _ _),
    bind_eq (spaces_write readable level (by simp [isSpace]) tail), bind_eq (reads tail follows),
    bind_eq (spaces_eq tail), pure_eq]

theorem arrayOf_write {reader : Reader Json} {items : List Json} {level : Nat}
    (readable : ∀ item ∈ items, Readable item)
    (reads : ∀ item ∈ items, Reads reader (write (level + 1) item) item) :
    Reads (arrayOf reader) (write level (.array items)) (.array items) := by
  intro tail _
  rw [write, writeItems_eq]
  cases items with
  | nil =>
      change arrayOf reader ('[' :: ']' :: tail) = _
      rw [arrayOf, bind_eq (char_cons _ _), bind_eq (spaces_cons rfl _), bind_eq (peek_eq _),
        List.head?_cons, if_pos rfl, bind_eq (char_cons _ _), pure_eq]
  | cons item items =>
      have first := readable item (by simp)
      obtain ⟨start, others, written, -, notClosing⟩ := write_eq_cons first (level + 1)
      rw [bracketed_map, arrayOf, bind_eq (char_cons _ _),
        bind_eq (spaces_write first (level + 1) (isSpace_newLine _) _), bind_eq (peek_eq _),
        if_neg (by simp [written, notClosing]), bind_eq (separated_entries (by decide) rfl tail ?_),
        bind_eq (char_cons _ _), pure_eq]
      intro value member
      exact readsEntry_item (readable value member) (reads value member)

theorem objectOf_write {reader : Reader Json} {members : List (Option String × Json)} {level : Nat}
    (keys : ∀ member ∈ members, ∃ key, member.1 = some key)
    (readable : ∀ member ∈ members, Readable member.2)
    (reads : ∀ member ∈ members, Reads reader (write (level + 1) member.2) member.2) :
    Reads (objectOf reader) (write level (.object members)) (.object members) := by
  intro tail _
  rw [write, writeMembers_eq]
  cases members with
  | nil =>
      change objectOf reader ('\x7b' :: '\x7d' :: tail) = _
      rw [objectOf, bind_eq (char_cons _ _), bind_eq (spaces_cons rfl _), bind_eq (peek_eq _),
        List.head?_cons, if_pos rfl, bind_eq (char_cons _ _), pure_eq]
  | cons member members =>
      have start (rest : List Char) : spaces (newLine (level + 1) ++
          (writeMember (level + 1) member ++ rest)) = some ((), writeMember (level + 1) member ++ rest) :=
        spaces_append (isSpace_newLine _) (by rintro c ⟨⟩; rfl)
      rw [bracketed_map, objectOf, bind_eq (char_cons _ _), bind_eq (start _), bind_eq (peek_eq _),
        if_neg (by simp [writeMember, quoted]),
        bind_eq (separated_entries (by decide) rfl tail ?_), bind_eq (char_cons _ _), pure_eq]
      rintro ⟨key, value⟩ isMember
      obtain ⟨key, rfl⟩ := keys _ isMember
      exact readsEntry_member (readable _ isMember) (reads _ isMember)

/-! ## The round trip -/

theorem exists_depth {value : Json} (readable : Readable value) {level depth : Nat}
    (enough : (write level value).length ≤ depth) : ∃ inner, depth = inner + 1 := by
  obtain ⟨first, others, written, -⟩ := write_eq_cons readable level
  rw [written, List.length_cons] at enough
  exact Nat.exists_eq_add_of_le' (Nat.le_trans (Nat.le_add_left 1 _) enough)

theorem valueTo_digit {first : Char} (digit : first.isDigit = true) (depth : Nat)
    (rest : List Char) : valueTo (depth + 1) (first :: rest) = numeral (first :: rest) := by
  rw [valueTo, bind_eq (peek_eq _), List.head?_cons]
  refine congrFun ?_ _
  split
  case h_7 => rfl
  all_goals
    rename_i same
    obtain rfl := Option.some.inj same
    simp at digit

theorem valueTo_write {value : Json} (readable : Readable value) (level depth : Nat)
    (enough : (write level value).length ≤ depth) :
    Reads (valueTo depth) (write level value) value := by
  -- The depth is counted against the length of the text: each part is shorter than the whole.
  induction readable generalizing level depth with
  | null =>
      intro tail _
      obtain ⟨depth, rfl⟩ := exists_depth .null enough
      rw [valueTo, write, bind_eq (peek_eq _)]
      exact bind_eq (literal_append _ tail)
  | boolean flag =>
      intro tail _
      obtain ⟨depth, rfl⟩ := exists_depth (.boolean flag) enough
      cases flag <;>
        rw [valueTo, write, bind_eq (peek_eq _)] <;>
        exact bind_eq (literal_append _ tail)
  | natural number =>
      intro tail follows
      obtain ⟨depth, rfl⟩ := exists_depth (.natural number) enough
      obtain ⟨first, others, written, digit⟩ := toDigits_eq_cons number
      have isNumber : write level (.natural number) = Nat.toDigits 10 number := by simp [write]
      rw [isNumber, ← numeral_toDigits number follows, written]
      exact valueTo_digit digit depth _
  | string text =>
      intro tail _
      obtain ⟨depth, rfl⟩ := exists_depth (.string text) enough
      rw [valueTo, bind_eq (peek_eq _)]
      exact bind_eq (quotedText_quoted text tail)
  | @array items all ih =>
      obtain ⟨depth, rfl⟩ := exists_depth (.array all) enough
      intro tail follows
      have inner : ∀ item ∈ items, Reads (valueTo depth) (write (level + 1) item) item := by
        intro item member
        refine ih item member (level + 1) depth ?_
        have part : write (level + 1) item ∈ writeItems (level + 1) items := by
          rw [writeItems_eq]
          exact List.mem_map_of_mem member
        have := length_lt_bracketed '[' ']' level part
        rw [write] at enough
        omega
      have opens : (write level (.array items) ++ tail).head? = some '[' := by
        rw [write, head?_bracketed]
      rw [valueTo, bind_eq (peek_eq _), opens]
      exact arrayOf_write all inner tail follows
  | @object members keys all ih =>
      obtain ⟨depth, rfl⟩ := exists_depth (.object keys all) enough
      intro tail follows
      have inner : ∀ member ∈ members,
          Reads (valueTo depth) (write (level + 1) member.2) member.2 := by
        intro member isMember
        refine ih member isMember (level + 1) depth ?_
        have part : writeMember (level + 1) member ∈ writeMembers (level + 1) members := by
          rw [writeMembers_eq]
          exact List.mem_map_of_mem isMember
        have := length_lt_bracketed '\x7b' '\x7d' level part
        rw [write] at enough
        simp only [writeMember, List.length_append, List.length_cons] at this
        omega
      have opens : (write level (.object members) ++ tail).head? = some '\x7b' := by
        rw [write, head?_bracketed]
      rw [valueTo, bind_eq (peek_eq _), opens]
      exact objectOf_write keys all inner tail follows

theorem parse_pretty {value : Json} (readable : Readable value) :
    parse value.pretty = some value := by
  have noPad : ∀ c ∈ ([] : List Char), isSpace c = true := by simp
  have before : spaces value.pretty = some ((), value.pretty) := by
    simpa [pretty] using spaces_write readable 0 noPad []
  have read : valueTo value.pretty.length value.pretty = some (value, []) := by
    simpa [pretty] using valueTo_write readable 0 _ (Nat.le_refl _) [] (by rintro c ⟨⟩)
  rw [parse, Reader.all, bind_eq before, bind_eq read, bind_eq (spaces_eq []), pure_eq]
  rfl

end HouseStyle.Json
