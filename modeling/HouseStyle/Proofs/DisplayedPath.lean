import HouseStyle.Path
import HouseStyle.Proofs.Decoding

namespace HouseStyle.Path
open Text

def IsText (path : Path) : Prop :=
  ∃ text : String, path = ofText text

@[simp] theorem display_ofText (text : String) : (ofText text).display = text := by
  rw [display, ofText, decodeLossy_encode, String.ofList_toList]

theorem text?_ofText (text : String) : (ofText text).text? = some text := by
  simp [text?, decode?, ofText, decodeLossy_encode]

theorem IsText.ofText_display {path : Path} (isText : path.IsText) : ofText path.display = path := by
  obtain ⟨text, rfl⟩ := isText
  rw [display_ofText]

theorem eq_ofText_of_text? {path : Path} {text : String} (isText : path.text? = some text) :
    path = ofText text := by
  obtain ⟨chars, decoded, rfl⟩ := Option.map_eq_some_iff.mp isText
  rw [decode?] at decoded
  split at decoded
  · rename_i encoded
    obtain rfl := Option.some.inj decoded
    rw [ofText, String.toList_ofList, encoded]
  · contradiction

theorem isSome_text?_iff {path : Path} : path.text?.isSome = true ↔ path.IsText := by
  rw [Option.isSome_iff_exists]
  refine ⟨fun ⟨text, isText⟩ => ⟨text, eq_ofText_of_text? isText⟩, ?_⟩
  rintro ⟨text, rfl⟩
  exact ⟨text, text?_ofText text⟩

instance (path : Path) : Decidable path.IsText :=
  decidable_of_iff _ isSome_text?_iff

theorem notMem_display {path : Path} {c : Char} (ascii : c.toNat < 0x80)
    (absent : UInt8.ofNat c.toNat ∉ path.bytes) : c ∉ path.display.toList := by
  rw [display, String.toList_ofList]
  exact notMem_decodeLossy ascii absent

end HouseStyle.Path
