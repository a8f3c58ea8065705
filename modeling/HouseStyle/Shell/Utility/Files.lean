import HouseStyle.Shell.Directory
import HouseStyle.Shell.Utility.Basic

namespace HouseStyle.Shell

def withoutSlashes (path : List Char) : List Char :=
  match (path.reverse.dropWhile (· = '/')).reverse with
  | [] => path.take 1
  | kept => kept

def baseName (path : List Char) : List Char :=
  let path := withoutSlashes path
  if path = ['/'] then path else (path.reverse.takeWhile (· ≠ '/')).reverse

def parentPath (path : List Char) : List Char :=
  let path := withoutSlashes path
  match (path.reverse.dropWhile (· ≠ '/')).reverse with
  | [] => ['.']
  | parent => withoutSlashes parent

def pathIn (directory name : List Char) : List Char :=
  if directory.getLast? = some '/' then directory ++ name else directory ++ ['/'] ++ name

def isDots (name : List Char) : Bool :=
  name = ['.'] || name = ['.', '.']

namespace Exec

def locateIn (followed : Bool) (path : List Char) : Exec (Except FileError Located) := do
  let machine ← get
  let here := machine.process.here
  pure (if followed then machine.tree.locate here (pathOf path)
    else machine.tree.locateName here (pathOf path))

def entryAt (followed : Bool) (path : List Char) : Exec (Except FileError (Place × Entry)) := do
  match (← locateIn followed path) with
  | .error error => pure (.error error)
  | .ok (.vacant _) => pure (.error .notFound)
  | .ok (.found place) =>
    match (← get).tree.get? place with
    | some entry => pure (.ok (place, entry))
    | none => pure (.error .notFound)

def isDirectoryPath (path : List Char) : Exec Bool := do
  match (← locate path) with
  | .ok (_, .directory) => pure true
  | _ => pure false

def modeAt (place : Place) : Exec Nat := do
  pure ((← get).modeAt place)

def timeAt (place : Place) : Exec Int := do
  pure ((← get).timeAt place)

inductive Presence where
  | all
  | allButLast
  | nothing
  deriving DecidableEq, Repr

/-- The place to which names lead from a directory, without links on the way, over at most so many
links and names. -/
def canonicalFrom (tree : FileTree) (presence : Presence) (follows : Bool) :
    Nat → Place → List Name → Except FileError Place
  | 0, _, _ => .error .tooManyLinks
  | _ + 1, place, [] => .ok place
  | steps + 1, place, name :: rest =>
    if name = [] || name = [Path.dot] then canonicalFrom tree presence follows steps place rest
    else if name = [Path.dot, Path.dot] then
      canonicalFrom tree presence follows steps place.dropLast rest
    else
      let next := place ++ [name]
      let isLast := rest.all (· = [])
      let isNamed := rest.head?.any fun name => name ≠ [] && !isDots (ofPath name)
      let refuse (error : FileError) : Except FileError Place :=
        if presence = .nothing || (presence = .allButLast && error = .notFound && isLast) then
          canonicalFrom tree presence follows steps next rest
        else .error error
      let standing := if follows then tree.get? next
        else match tree.follow 40 [] next with
          | .ok (.found found) => tree.get? found
          | _ => none
      match standing with
      | some (.link target) =>
        let names := Text.splitAt Path.separator target.bytes
        let start := if target.isAbsolute then [] else place
        canonicalFrom tree presence follows steps start (names ++ rest)
      | some .directory => canonicalFrom tree presence follows steps next rest
      | some _ =>
        if rest = [] || isNamed then canonicalFrom tree presence follows steps next rest
        else refuse .notDirectory
      | none => refuse (match tree.follow 40 [] next with
          | .error error => error
          | .ok _ => .notFound)

def canonical (presence : Presence) (follows : Bool) (path : List Char) :
    Exec (Except FileError Place) := do
  let machine ← get
  let start := if path.head? = some '/' then [] else machine.process.here
  let names := Text.splitAt Path.separator (pathOf path).bytes
  pure (if path = [] then .error .notFound
    else canonicalFrom machine.tree presence follows (2000 + names.length) start names)

def pathBetween (start goal : Place) : List Char :=
  let shared := ((start.zip goal).takeWhile fun (left, right) => left = right).length
  let up := (start.drop shared).map fun _ => [Path.dot, Path.dot]
  match ofPath ([Path.separator].intercalate (up ++ goal.drop shared)) with
  | [] => ['.']
  | path => path

def eachOperand (operands : List (List Char)) (run : List Char → Exec Bool) : Exec Nat := do
  let results ← operands.mapM run
  pure (if results.all id then 0 else 1)

def isAgreed (question : List Char) : Exec Bool := do
  report ((← process).name ++ [':', ' '] ++ question ++ ['?', ' '])
  let text ← pending 0
  let line := text.takeWhile (· ≠ '\n')
  consume 0 (line.length + 1)
  pure (line.head? = some 'y' || line.head? = some 'Y')

def refusePair (first : String) (source : List Char) (second : String) (target : List Char)
    (last : String) : Exec Bool := do
  programError (first.toList ++ shown source ++ second.toList ++ shown target ++ last.toList)
  pure false

def isSameName (left right : List Char) : Exec Bool := do
  match (← locateIn false left), (← locateIn false right) with
  | .ok left, .ok right => pure (left = right)
  | _, _ => pure false

def isSameFile (left right : Place) : Exec Bool := do
  pure (((← get).twins left).contains right)

end Exec

end HouseStyle.Shell
