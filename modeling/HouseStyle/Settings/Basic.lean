import HouseStyle.Toml.Document

namespace HouseStyle

structure SearchSettings where
  exclude : List String := []
  extensions : List String := ["c", "h"]
  respectIgnoreFiles : Bool := false
  deriving DecidableEq, Repr

structure Section where
  enabled : Option Bool := none
  options : List (String × Toml.Value) := []

structure Settings where
  search : SearchSettings := {}
  sections : List (String × Section) := []

namespace Section

def natural? (options : Section) (key : String) : Option Nat :=
  match options.options.lookup key with
  | some (.integer number) => if 0 ≤ number then some number.toNat else none
  | _ => none

def natural (options : Section) (key : String) (default : Nat) : Nat :=
  (options.natural? key).getD default

def boolean? (options : Section) (key : String) : Option Bool :=
  match options.options.lookup key with
  | some (.boolean flag) => some flag
  | _ => none

def string (options : Section) (key : String) (default : String) : String :=
  match options.options.lookup key with
  | some (.string text) => text
  | _ => default

def text? (options : Section) (key : String) : Option String :=
  match options.options.lookup key with
  | some (.string text) => some text
  | some (.datetime moment) => some moment.text
  | _ => none

/-- The strings of an array; whatever else it holds is left out. -/
def strings (options : Section) (key : String) : List String :=
  match options.options.lookup key with
  | some (.array items) => items.filterMap fun
    | .string text => some text
    | _ => none
  | _ => []

end Section

namespace Settings

def sectionsOf (settings : Settings) (name code : String) : List Section :=
  [name, code].filterMap fun key => settings.sections.lookup key

def section? (settings : Settings) (name code : String) : Option Section :=
  (settings.sectionsOf name code).head?

def isEnabled (settings : Settings) (name code : String) : Bool :=
  ((settings.sectionsOf name code).findSome? (·.enabled)).getD true

end Settings

end HouseStyle
