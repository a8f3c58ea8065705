import HouseStyle.Path
import HouseStyle.Settings.Basic
import HouseStyle.Toml.Reserved

namespace HouseStyle

inductive SettingsError where
  | unreadable (path : Path) (reason : String)
  | malformed
  deriving DecidableEq, Repr

namespace SettingsError

def message : SettingsError → String
  | unreadable path reason => "Failed to read config file " ++ path.display ++ ": " ++ reason
  | malformed => "Failed to parse config"

end SettingsError

namespace SearchSettings

def strings? : Toml.Value → Option (List String)
  | .array items => items.mapM fun
    | .string text => some text
    | _ => none
  | _ => none

def boolean? : Toml.Value → Option Bool
  | .boolean flag => some flag
  | _ => none

def ofFields? (exclude extensions respect : Option Toml.Value) : Option SearchSettings := do
  let base : SearchSettings := {}
  let exclude ← exclude.elim (some base.exclude) strings?
  let extensions ← extensions.elim (some base.extensions) strings?
  let respectIgnoreFiles ← respect.elim (some base.respectIgnoreFiles) boolean?
  pure { exclude, extensions, respectIgnoreFiles }

def ofValue? : Toml.Value → Option SearchSettings
  | .table entries =>
    ofFields? (entries.lookup "exclude") (entries.lookup "extensions")
      (entries.lookup "respect_gitignore")
  | .array items => ofFields? items[0]? items[1]? items[2]?
  | .datetime _ => some {}
  | _ => none

end SearchSettings

namespace Section

/-- The options are all entries but the switch. A date in the place of a section has its text as
the one option. -/
def ofValue? : Toml.Value → Option Section
  | .table entries => do
    let enabled ← (entries.lookup "enabled").elim (some none) fun value =>
      (SearchSettings.boolean? value).map some
    let options ← Toml.Value.resolveEntries? (entries.filter (·.1 ≠ "enabled"))
    pure { enabled, options }
  | .datetime moment => some { options := [(Toml.datetimeKey, .string moment.text)] }
  | _ => none

end Section

namespace Settings

def sections? : Toml.Value → Option (List (String × Section))
  | .table entries => entries.mapM fun (name, value) => do pure (name, ← Section.ofValue? value)
  | _ => none

def ofEntries? (entries : List (String × Toml.Value)) : Option Settings := do
  let search ← (entries.lookup "analyzer").elim (some {}) SearchSettings.ofValue?
  let sections ← (entries.lookup "rules").elim (some []) sections?
  pure { search, sections }

def parse (text : List Char) : Except SettingsError Settings :=
  match (Toml.parse text).bind ofEntries? with
  | some settings => .ok settings
  | none => .error .malformed

end Settings

end HouseStyle
