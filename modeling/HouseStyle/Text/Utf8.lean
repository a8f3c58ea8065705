/-!
# UTF-8

Texts are stored as bytes. Encoding is that of every character in turn. Decoding comes in two
forms: `decode?` refuses bytes that are no UTF-8, and `decodeLossy` puts one replacement character
in the place of every maximal invalid part: a byte that starts nothing, or a start cut off at the
first byte that cannot continue it.
-/

namespace HouseStyle.Text

def encode (text : List Char) : List UInt8 :=
  text.flatMap String.utf8EncodeChar

/-- The sequences that a leading byte can start: how many bytes follow, and the values that the
first of them may have. The narrowed ranges rule out overlong forms, surrogates and numbers past
the last character. -/
def follows? (lead : UInt8) : Option (Nat × UInt8 × UInt8) :=
  if lead < 0xC2 then none
  else if lead < 0xE0 then some (1, 0x80, 0xBF)
  else if lead = 0xE0 then some (2, 0xA0, 0xBF)
  else if lead = 0xED then some (2, 0x80, 0x9F)
  else if lead < 0xF0 then some (2, 0x80, 0xBF)
  else if lead = 0xF0 then some (3, 0x90, 0xBF)
  else if lead < 0xF4 then some (3, 0x80, 0xBF)
  else if lead = 0xF4 then some (3, 0x80, 0x8F)
  else none

def leadBits (lead : UInt8) : Nat :=
  if lead < 0xE0 then lead.toNat % 32 else if lead < 0xF0 then lead.toNat % 16 else lead.toNat % 8

/-- What a decoder is in the middle of: nothing, or a sequence of which `need + 1` bytes are still
to come, the next of them between `low` and `high`. -/
inductive Pending where
  | nothing
  | sequence (value : Nat) (need : Nat) (low high : UInt8)

def replacement : Char := '�'

def startSequence (byte : UInt8) : List Char × Pending :=
  if byte < 0x80 then ([Char.ofNat byte.toNat], .nothing)
  else match follows? byte with
    | some (count, low, high) => ([], .sequence (leadBits byte) (count - 1) low high)
    | none => ([replacement], .nothing)

def feed (pending : Pending) (byte : UInt8) : List Char × Pending :=
  match pending with
  | .nothing => startSequence byte
  | .sequence value need low high =>
    if low ≤ byte && byte ≤ high then
      let value := value * 64 + byte.toNat % 64
      match need with
      | 0 => ([Char.ofNat value], .nothing)
      | need + 1 => ([], .sequence value need 0x80 0xBF)
    else
      let (found, next) := startSequence byte
      (replacement :: found, next)

def decodeFrom (pending : Pending) : List UInt8 → List Char
  | [] => match pending with
    | .nothing => []
    | .sequence .. => [replacement]
  | byte :: rest =>
    let (found, next) := feed pending byte
    found ++ decodeFrom next rest

def decodeLossy (bytes : List UInt8) : List Char :=
  decodeFrom .nothing bytes

def decode? (bytes : List UInt8) : Option (List Char) :=
  let text := decodeLossy bytes
  if encode text = bytes then some text else none

end HouseStyle.Text
