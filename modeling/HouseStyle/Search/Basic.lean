import HouseStyle.Log
import HouseStyle.Search.Pattern
import HouseStyle.Search.UserIgnore
import HouseStyle.Settings.Basic

namespace HouseStyle

inductive SearchError where
  | invalidPattern (pattern : String)
  | walkFailed (directory : Path)
  deriving DecidableEq, Repr

namespace SearchError

def message : SearchError → String
  | invalidPattern pattern => "Invalid exclude pattern: " ++ pattern
  | walkFailed directory => "Failed to walk " ++ directory.display

end SearchError

structure Search where
  extensions : List String
  exclude : List Pattern
  respectIgnoreFiles : Bool
  deriving DecidableEq, Repr

structure SearchResult where
  files : List Path := []
  log : List LogLine := []
  deriving DecidableEq, Repr

namespace Search

/-- The search of the settings, with some patterns more. The first pattern that is not valid is the
error. -/
def ofSettings (settings : SearchSettings) (extra : List String) : Except SearchError Search := do
  let exclude ← (settings.exclude ++ extra).mapM fun text =>
    match Pattern.parse? text with
    | some pattern => .ok pattern
    | none => .error (.invalidPattern text)
  pure ⟨settings.extensions, exclude, settings.respectIgnoreFiles⟩

def hasExtension (search : Search) (path : Path) : Bool :=
  search.extensions.any path.hasExtension

def isExcluded (search : Search) (directory path : Path) : Bool :=
  let relative := (Path.stripBase? directory path).getD path
  search.exclude.any fun pattern => pattern.isMatch path || pattern.isMatch relative

def shownPath (directory : Path) (names : Place) : Path :=
  let path := Path.extend directory names
  (Path.stripBase? "." path).getD path

/-- The name that stands for a stream, not for a directory: there is nothing below it. -/
def streamName : Path := "-"

def taken? (search : Search) (setting : IgnoreSetting) : Place × Entry → Option Path
  | (names, .file _) =>
    let path := shownPath setting.directory names
    if search.respectIgnoreFiles && setting.isIgnored names false then none
    else if search.hasExtension path && !search.isExcluded setting.directory path then some path
    else none
  | _ => none

def inDirectory (search : Search) (host : Host) (directory : Path) (recursive : Bool) :
    Except SearchError SearchResult :=
  match host.tree.find host.here directory with
  | .ok (base, .directory) =>
    let setting :=
      IgnoreSetting.ofDirectory host.tree host.here (UserIgnore.load host) directory base
    if Path.same directory streamName then .ok {}
    else if search.respectIgnoreFiles && !setting.isValid then .error (.walkFailed directory)
    else
      let entries := host.tree.below base (if recursive then none else some 1)
      .ok { files := entries.filterMap (search.taken? setting) }
  | _ => .ok { log := [⟨.warn, "Not a directory: " ++ directory.display⟩] }

def existing (host : Host) (files : List Path) : SearchResult :=
  { files := files.filter host.exists?
    log := (files.filter (!host.exists? ·)).map fun file =>
      ⟨.warn, "Skipping missing file: " ++ file.display⟩ }

end Search

end HouseStyle
