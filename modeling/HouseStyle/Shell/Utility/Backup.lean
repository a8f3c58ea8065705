import HouseStyle.Shell.Utility.Files

namespace HouseStyle.Shell.Exec

inductive Keeping where
  | nothing
  | simple
  | existing
  | numbered
  deriving DecidableEq, Repr

structure Backup where
  keeping : Keeping := .nothing
  ending : List Char := ['~']

/-- What is said of backups by the option for them, by its argument, and by an ending. If nothing else
is said, the environment decides. -/
def backupOf (isAsked : Bool) (control ending : Option (List Char)) :
    Exec (Option Backup) := do
  let fromOutside ← environment? "SIMPLE_BACKUP_SUFFIX"
  let ending := match ending.or fromOutside with
    | some text => if text = [] || text.contains '/' then ['~'] else text
    | none => ['~']
  if !isAsked then pure (some { ending })
  else
    let outside := ((← environment? "VERSION_CONTROL").getD [])
    let inside := control.getD []
    let word := if inside ≠ [] then inside else outside
    if word = [] then pure (some { keeping := .existing, ending })
    else
      let name := if inside ≠ [] then "backup type" else "$VERSION_CONTROL"
      match (← choiceOf name [["none", "off"], ["simple", "never"], ["existing", "nil"],
          ["numbered", "t"]] word) with
      | none => pure none
      | some "none" => pure (some { ending })
      | some "simple" => pure (some { keeping := .simple, ending })
      | some "existing" => pure (some { keeping := .existing, ending })
      | some _ => pure (some { keeping := .numbered, ending })

def backupNumber? (name backup : List Char) : Option Nat :=
  let start := name ++ ".~".toList
  let digits := (backup.drop start.length).dropLast
  if start.isPrefixOf backup && backup.getLast? = some '~' && digits ≠ [] &&
      digits.all Char.isDigit then
    some (Text.digitsValue 10 digits)
  else none

def backupPath (backup : Backup) (path : List Char) : Exec (List Char) := do
  let path := withoutSlashes path
  let names ← match (← entryAt true (parentPath path)) with
    | .ok (place, _) => do
      pure (((← get).tree.below place (some 1)).map fun (names, _) => ofPath (names.headD []))
    | .error _ => pure []
  let last := (names.filterMap (backupNumber? (baseName path))).foldl Nat.max 0
  pure (if backup.keeping = .numbered || (backup.keeping = .existing && last > 0) then
    path ++ ".~".toList ++ decimal (last + 1) ++ ['~']
  else path ++ backup.ending)

def keepFile (backup : Backup) (path : List Char) (place : Place) : Exec (List Char) := do
  let kept ← backupPath backup path
  match (← locateIn false kept) with
  | .ok (.found goal) | .ok (.vacant goal) => modify (·.move place goal)
  | .error _ => pure ()
  pure kept

def backupForms : List OptionForm :=
  OptionForm.letters "b" ++ [{ letter := 'β', name := "backup", demand := .optional }] ++
    OptionForm.namedValued [('S', "suffix")]

def backupOfOptions (arguments : Arguments) : Exec (Option Backup) :=
  backupOf (arguments.hasAny "bβS") (arguments.value? 'β') (arguments.value? 'S')

end HouseStyle.Shell.Exec
