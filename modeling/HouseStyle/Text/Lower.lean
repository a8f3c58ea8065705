import HouseStyle.Text.Casing

/-!
# Lower-casing a text

Every character is replaced by its lower-case form. Two characters need more than the table: the
dotted capital I becomes two characters, and the capital sigma is written in its final form where a
word ends, that is, after a cased letter and not before one.
-/

namespace HouseStyle.Text

def lowerChar (c : Char) : List Char :=
  if c.toNat < 0x80 then [c.toLower]
  else if c = 'İ' then ['i', Char.ofNat 0x307]
  else match lowerRuns.find? (·.holds c.toNat) with
    | some run => [run.apply c.toNat]
    | none => [c]

def nextIsCased (text : List Char) : Bool :=
  match text.dropWhile isCaseIgnorable with
  | [] => false
  | c :: _ => isCased c

def lowerFrom (before : List Char) : List Char → List Char
  | [] => []
  | c :: rest =>
    let low :=
      if c = 'Σ' then
        if nextIsCased before && !nextIsCased rest then ['ς'] else ['σ']
      else lowerChar c
    low ++ lowerFrom (c :: before) rest

def lower (text : List Char) : List Char :=
  lowerFrom [] text

end HouseStyle.Text
