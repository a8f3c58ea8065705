import HouseStyle.FileTree.Basic
import HouseStyle.Search.IgnorePattern
import HouseStyle.Text.Blank
import HouseStyle.Text.Lines

/-!
# Ignore files

A directory can hold rules for what is below it: in `.ignore`, and, if it is part of a repository,
in `.gitignore` and in the list of the repository. Of the rules in a file the last one that is met
decides, and of the files of one sort the innermost that decides anything. An `.ignore` file comes
before the other two, `.gitignore` before the list of the repository, and last comes a list of the
user. Nothing outside the repository counts for the last three.
-/

namespace HouseStyle

structure IgnoreRule where
  pattern : IgnorePattern
  keeps : Bool
  directoriesOnly : Bool

inductive IgnoreLine where
  | nothing
  | rule (rule : IgnoreRule)
  | invalid

namespace IgnoreRule

/-- The rule of a line without its marks. A pattern without a separator is about names at any depth,
and one that ends in two stars is about what is inside a directory, not about the directory. -/
def ofPattern (anchored keeps directoriesOnly : Bool) (text : List Char) : IgnoreLine :=
  let anywhere := ['*', '*', '/']
  let text :=
    if anchored || '/' ∈ text || text = ['*', '*'] then text else anywhere ++ text
  let text := if ['/', '*', '*'].isSuffixOf text then text ++ ['/', '*'] else text
  match IgnorePattern.parse? text with
  | some pattern => .rule ⟨pattern, keeps, directoriesOnly⟩
  | none => .invalid

def ofUnmarked (anchored keeps : Bool) (text : List Char) : IgnoreLine :=
  if text.getLast? = some '/' then
    let text := text.dropLast
    ofPattern anchored keeps true (if text.getLast? = some '\\' then text.dropLast else text)
  else ofPattern anchored keeps false text

def ofLine (line : List Char) : IgnoreLine :=
  let text := if ['\\', ' '].isSuffixOf line then line else Text.trimEnd line
  match text with
  | [] => .nothing
  | '#' :: _ => .nothing
  | '\\' :: '!' :: rest => ofUnmarked false false ('!' :: rest)
  | '\\' :: '#' :: rest => ofUnmarked false false ('#' :: rest)
  | '!' :: '/' :: rest => ofUnmarked true true rest
  | '!' :: rest => ofUnmarked false true rest
  | '/' :: rest => ofUnmarked true false rest
  | text => ofUnmarked false false text

def meets (rule : IgnoreRule) (path : List UInt8) (isDirectory : Bool) : Bool :=
  rule.pattern.isMatch path && (!rule.directoriesOnly || isDirectory)

end IgnoreRule

structure IgnoreFile where
  rules : List IgnoreRule := []
  isValid : Bool := true

namespace IgnoreFile

def readable (content : List UInt8) : List Char :=
  match Text.decode? content with
  | some text => text
  | none =>
    let lines := (content.splitOn 0x0A).map Text.decode?
    (lines.takeWhile Option.isSome).flatMap fun line => line.getD [] ++ ['\n']

/-- A mark of the encoding at the start of a file is no part of its first line. If one pattern
cannot be used, none of them is. -/
def ofBytes (content : List UInt8) : IgnoreFile :=
  let text := (readable content).dropWhile (· = '\ufeff')
  let lines := (Text.lines text).map IgnoreRule.ofLine
  let rules := lines.filterMap fun
    | .rule rule => some rule
    | _ => none
  if rules.all (·.pattern.isUsable) then
    { rules
      isValid := lines.all fun
        | .invalid => false
        | _ => true }
  else { isValid := false }

def load (tree : FileTree) (here : Place) (path : Path) : IgnoreFile :=
  match tree.read here path with
  | .ok content => .ofBytes content
  | .error _ => {}

def verdict? (file : IgnoreFile) (path : List UInt8) (isDirectory : Bool) : Option Bool :=
  (file.rules.reverse.find? (·.meets path isDirectory)).map (!·.keeps)

end IgnoreFile

/-! ## The list of a repository -/

def IgnorePath.ofPlace (place : Place) : List UInt8 :=
  Path.separator :: [Path.separator].intercalate place

namespace Repository

inductive FirstLine where
  | text (line : List Char)
  | missing
  | unreadable

def firstLine (content : List UInt8) : FirstLine :=
  let line := content.takeWhile (· ≠ 0x0A)
  let ended := line.length < content.length
  let line := if ended && line.getLast? = some 0x0D then line.dropLast else line
  match content, Text.decode? line with
  | [], _ => .missing
  | _, some text => .text text
  | _, none => .unreadable

inductive Location where
  | directory (path : Path)
  | none
  | unreadable

def pointerMark : List Char := "gitdir: ".toList

/-- The directory with the list of the repository in the directory `place`. Instead of being such a
directory, `.git` can be a file that names one, from the current directory `here`, in which a file
names the directory in turn. -/
def locate (tree : FileTree) (here place : Place) : Location :=
  match tree.find place ".git" with
  | .ok (_, .file content) =>
    match firstLine content with
    | .unreadable => .unreadable
    | .missing => .none
    | .text line =>
      if pointerMark.isPrefixOf line then
        let pointer := Path.ofText (String.ofList (line.drop pointerMark.length))
        match tree.read here (pointer.join "commondir") with
        | .error .isDirectory => .unreadable
        | .error _ => .none
        | .ok content =>
          match firstLine content with
          | .unreadable => .unreadable
          | .missing => .none
          | .text line =>
            let path := Path.ofText (String.ofList line)
            .directory (if line.head? = some '.' then pointer.join path else path)
      else .none
  | _ => .directory ⟨IgnorePath.ofPlace place ++ (Path.ofText "/.git").bytes⟩

def list (tree : FileTree) (here place : Place) : IgnoreFile :=
  match locate tree here place with
  | .directory path => .load tree here (path.join "info/exclude")
  | .none => {}
  | .unreadable => { isValid := false }

def isAt (tree : FileTree) (place : Place) : Bool :=
  tree.exists? place ".git" || tree.exists? place ".jj"

end Repository

/-! ## The levels around a path -/

structure IgnoreLevel where
  directory : List UInt8
  own : IgnoreFile
  shared : IgnoreFile
  repository : IgnoreFile
  hasRepository : Bool

namespace IgnoreLevel

def ofDirectory (tree : FileTree) (here place : Place) (directory : List UInt8) : IgnoreLevel :=
  { directory
    own := .load tree place ".ignore"
    shared := .load tree place ".gitignore"
    repository := Repository.list tree here place
    hasRepository := Repository.isAt tree place }

def isValid (level : IgnoreLevel) : Bool :=
  level.own.isValid && level.shared.isValid && level.repository.isValid

end IgnoreLevel

namespace IgnorePath

def dropStart (start path : List UInt8) : List UInt8 :=
  if start.isPrefixOf path then path.drop start.length else path

def dropDot (path : List UInt8) : List UInt8 :=
  dropStart [Path.dot, Path.separator] path

def relativeTo (directory path : List UInt8) : List UInt8 :=
  let path := dropDot path
  let base := dropDot directory
  if Path.same ⟨base⟩ "." || Path.separator ∉ path || !base.isPrefixOf path then path
  else dropStart [Path.separator] (path.drop base.length)

end IgnorePath

/-- What is known about a search before it looks at anything: its directory as it was spelled and
its place, the levels around it, and the list of the user. -/
structure IgnoreSetting where
  tree : FileTree
  here : Place
  directory : Path
  base : Place
  around : List IgnoreLevel
  user : IgnoreFile

namespace IgnoreSetting

def levelsAround (tree : FileTree) (here place : Place) : List IgnoreLevel :=
  ((List.range place.length).map fun depth =>
    IgnoreLevel.ofDirectory tree here (place.take depth)
      (IgnorePath.ofPlace (place.take depth))).reverse

def ofDirectory (tree : FileTree) (here : Place) (user : IgnoreFile) (directory : Path)
    (base : Place) : IgnoreSetting :=
  { tree, here, directory, base, user, around := levelsAround tree here base }

def isValid (setting : IgnoreSetting) : Bool :=
  setting.around.all (·.isValid)

def spelled (setting : IgnoreSetting) (names : Place) : List UInt8 :=
  (setting.directory.extend names).bytes

/-- The levels from the directory of the search down to what `names` lead to, the innermost
first. -/
def levelsInside (setting : IgnoreSetting) (names : Place) : List IgnoreLevel :=
  ((List.range names.length).map fun depth =>
    IgnoreLevel.ofDirectory setting.tree setting.here (setting.base ++ names.take depth)
      (setting.spelled (names.take depth))).reverse

/-- A path for the levels around the directory of the search: from the root, as far as the spelling
of the directory can be taken off its start. -/
def pathFromRoot (setting : IgnoreSetting) (path : List UInt8) : List UInt8 :=
  let below :=
    if Path.same setting.directory "." then path
    else
      let directory := IgnorePath.dropDot setting.directory.bytes
      IgnorePath.dropStart [Path.separator] (IgnorePath.dropStart directory path)
  (Path.join ⟨IgnorePath.ofPlace setting.base⟩ ⟨below⟩).bytes

def sharedLevels (levels : List (IgnoreLevel × List UInt8)) : List (IgnoreLevel × List UInt8) :=
  levels.takeWhile (!·.1.hasRepository) ++ (levels.find? (·.1.hasRepository)).toList

def isIgnoredItself (setting : IgnoreSetting) (names : Place) (isDirectory : Bool) : Bool :=
  let path := IgnorePath.dropDot (setting.spelled names)
  let seenFrom (path : List UInt8) (level : IgnoreLevel) :=
    (level, IgnorePath.relativeTo level.directory path)
  let levels := (setting.levelsInside names).map (seenFrom path) ++
    setting.around.map (seenFrom (setting.pathFromRoot path))
  let inRepository := levels.any (·.1.hasRepository)
  let shared := if inRepository then sharedLevels levels else []
  let own := levels.findSome? fun (level, path) => level.own.verdict? path isDirectory
  let shared? := shared.findSome? fun (level, path) => level.shared.verdict? path isDirectory
  let repository := shared.findSome? fun (level, path) => level.repository.verdict? path isDirectory
  let user :=
    if inRepository then
      setting.user.verdict? (IgnorePath.relativeTo (IgnorePath.ofPlace setting.here) path)
        isDirectory
    else none
  (((own.or shared?).or repository).or user).getD false

def isIgnored (setting : IgnoreSetting) (names : Place) (isDirectory : Bool) : Bool :=
  setting.isIgnoredItself names isDirectory ||
    (List.range names.length).any fun depth =>
      depth ≠ 0 && setting.isIgnoredItself (names.take depth) true

end IgnoreSetting

end HouseStyle
