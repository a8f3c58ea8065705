import HouseStyle.Finding
import HouseStyle.Proofs.DisplayedPath
import HouseStyle.Proofs.Text

namespace HouseStyle

namespace Kind

theorem ofLabel?_label (kind : Kind) : ofLabel? kind.label = some kind := by
  cases kind <;> decide

theorem label_chars (kind : Kind) : ∀ c ∈ kind.label.toList, c ≠ ' ' ∧ c ≠ '\n' := by
  cases kind <;> simp [label]

end Kind

namespace Location

theorem text_oneLine {location : Location} (file : 0x0A ∉ location.file.bytes) :
    '\n' ∉ location.text.toList := by
  have shown : '\n' ∉ location.file.display.toList := Path.notMem_display (by decide) file
  rw [text]
  split
  · simp [shown, Text.notMem_toDigits]
  · exact shown

end Location

namespace Finding

theorem entry_oneLine {finding : Finding} (file : 0x0A ∉ finding.location.file.bytes)
    (message : '\n' ∉ finding.message.toList) : '\n' ∉ finding.entry.toList := by
  simp [entry, Location.text_oneLine file, message]

end Finding

end HouseStyle
