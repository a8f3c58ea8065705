import HouseStyle.FileTree.Error
import HouseStyle.Path

/-!
# File trees

A tree says what stands at each place, where a place is the list of names that lead to it from the
root. Paths are followed from a directory name by name: a link leads to where its target leads, and
at most forty links are followed.
-/

namespace HouseStyle

inductive Device where
  | null
  | full
  | zero
  | stream (number : Nat)
  deriving DecidableEq, Repr

inductive Entry where
  | file (content : List UInt8)
  | directory
  | link (target : Path)
  | device (device : Device)
  | program (name : String)
  deriving DecidableEq, Repr

abbrev Place := List Name

structure IsName (name : Name) : Prop where
  nonempty : name ≠ []
  notDot : name ≠ [Path.dot]
  notParent : name ≠ [Path.dot, Path.dot]
  oneStep : Path.separator ∉ name

instance (name : Name) : Decidable (IsName name) :=
  decidable_of_iff
    (name ≠ [] ∧ name ≠ [Path.dot] ∧ name ≠ [Path.dot, Path.dot] ∧ Path.separator ∉ name)
    ⟨fun ⟨nonempty, notDot, notParent, oneStep⟩ => ⟨nonempty, notDot, notParent, oneStep⟩,
      fun ⟨nonempty, notDot, notParent, oneStep⟩ => ⟨nonempty, notDot, notParent, oneStep⟩⟩

structure IsPlace (place : Place) : Prop where
  notRoot : place ≠ []
  names : ∀ name ∈ place, IsName name

instance (place : Place) : Decidable (IsPlace place) :=
  decidable_of_iff (place ≠ [] ∧ ∀ name ∈ place, IsName name)
    ⟨fun ⟨notRoot, names⟩ => ⟨notRoot, names⟩, fun ⟨notRoot, names⟩ => ⟨notRoot, names⟩⟩

structure FileTree where
  entries : List (Place × Entry)
  named : ∀ entry ∈ entries, IsPlace entry.1
  distinct : (entries.map (·.1)).Nodup

inductive Located where
  | found (place : Place)
  | vacant (place : Place)
  deriving DecidableEq, Repr

namespace FileTree

def empty : FileTree where
  entries := []
  named := by simp
  distinct := .nil

/-- What stands at a place. The root is always a directory. -/
def get? (tree : FileTree) (place : Place) : Option Entry :=
  if place = [] then some .directory else tree.entries.lookup place

def isDirectoryAt (tree : FileTree) (place : Place) : Bool :=
  tree.get? place = some .directory

def maxName : Nat := 255

def pathLimit : Nat := 4096

inductive Walk where
  | ended (result : Except FileError Located)
  | linked (start : Place) (names : List Name)

def walk (tree : FileTree) (place : Place) : List Name → Walk
  | [] => .ended (.ok (.found place))
  | name :: rest =>
    if !tree.isDirectoryAt place then
      .ended (.error (if (tree.get? place).isSome then .notDirectory else .notFound))
    else if name = [] || name = [Path.dot] then tree.walk place rest
    else if name = [Path.dot, Path.dot] then tree.walk place.dropLast rest
    else if name.length > maxName then .ended (.error .nameTooLong)
    else match tree.get? (place ++ [name]) with
      | none =>
        .ended (if rest = [] then .ok (.vacant (place ++ [name])) else .error .notFound)
      | some (.link target) =>
        .linked (if target.isAbsolute then [] else place)
          (Text.splitAt Path.separator target.bytes ++ rest)
      | some _ => tree.walk (place ++ [name]) rest

def follow (tree : FileTree) (links : Nat) (place : Place) (names : List Name) :
    Except FileError Located :=
  match tree.walk place names with
  | .ended result => result
  | .linked start names =>
    match links with
    | 0 => .error .tooManyLinks
    | links + 1 => tree.follow links start names

def locate (tree : FileTree) (here : Place) (path : Path) : Except FileError Located :=
  if 0 ∈ path.bytes then .error .nulInName
  else if path.bytes = [] then .error .notFound
  else if path.bytes.length ≥ pathLimit then .error .nameTooLong
  else tree.follow 40 (if path.isAbsolute then [] else here)
    (Text.splitAt Path.separator path.bytes)

def find (tree : FileTree) (here : Place) (path : Path) : Except FileError (Place × Entry) := do
  match (← tree.locate here path) with
  | .vacant _ => .error .notFound
  | .found place =>
    match tree.get? place with
    | some entry => .ok (place, entry)
    | none => .error .notFound

def exists? (tree : FileTree) (here : Place) (path : Path) : Bool :=
  (tree.find here path).isOk

def isDirectory (tree : FileTree) (here : Place) (path : Path) : Bool :=
  match tree.find here path with
  | .ok (_, .directory) => true
  | _ => false

def isFile (tree : FileTree) (here : Place) (path : Path) : Bool :=
  match tree.find here path with
  | .ok (_, .file _) | .ok (_, .program _) => true
  | _ => false

def read (tree : FileTree) (here : Place) (path : Path) : Except FileError (List UInt8) := do
  match (← tree.find here path) with
  | (_, .file content) => .ok content
  | (_, .directory) => .error .isDirectory
  | (_, _) => .ok []

/-! ## Changes -/

def replaced (entries : List (Place × Entry)) (place : Place) (entry : Entry) :
    List (Place × Entry) :=
  entries.map fun old => if old.1 = place then (place, entry) else old

theorem places_replaced (entries : List (Place × Entry)) (place : Place) (entry : Entry) :
    (replaced entries place entry).map (·.1) = entries.map (·.1) := by
  rw [replaced, List.map_map]
  refine List.map_congr_left fun old _ => ?_
  by_cases here : old.1 = place <;> simp [here]

theorem named_replaced (tree : FileTree) {place : Place} (isPlace : IsPlace place) (new : Entry) :
    ∀ entry ∈ replaced tree.entries place new, IsPlace entry.1 := by
  intro other member
  obtain ⟨old, isOld, rfl⟩ := List.mem_map.mp member
  split
  · exact isPlace
  · exact tree.named old isOld

theorem named_append (tree : FileTree) {place : Place} (isPlace : IsPlace place) (new : Entry) :
    ∀ entry ∈ tree.entries ++ [(place, new)], IsPlace entry.1 := by
  intro other member
  rcases List.mem_append.mp member with old | last
  · exact tree.named other old
  · rw [List.mem_singleton.mp last]
    exact isPlace

theorem distinct_append (tree : FileTree) {place : Place} (free : tree.entries.lookup place = none)
    (entry : Entry) : ((tree.entries ++ [(place, entry)]).map (·.1)).Nodup := by
  rw [List.map_append, List.nodup_append]
  refine ⟨tree.distinct, by simp, fun other member new isNew same => ?_⟩
  obtain ⟨old, isOld, rfl⟩ := List.mem_map.mp member
  have apart := List.lookup_eq_none_iff.mp free old isOld
  simp_all

def set (tree : FileTree) (place : Place) (entry : Entry) : FileTree :=
  if isPlace : IsPlace place then
    if free : tree.entries.lookup place = none then
      { entries := tree.entries ++ [(place, entry)]
        named := named_append tree isPlace entry
        distinct := distinct_append tree free entry }
    else
      { entries := replaced tree.entries place entry
        named := named_replaced tree isPlace entry
        distinct := by rw [places_replaced]; exact tree.distinct }
  else tree

def write (tree : FileTree) (here : Place) (path : Path) (content : List UInt8) :
    Except FileError FileTree := do
  match (← tree.locate here path) with
  | .vacant place => .ok (tree.set place (.file content))
  | .found place =>
    match tree.get? place with
    | some (.file _) => .ok (tree.set place (.file content))
    | some .directory => .error .isDirectory
    | some (.program _) => .error .permissionDenied
    | some (.device .full) => .error .noSpace
    | _ => .ok tree

def makeDirectories (tree : FileTree) (here : Place) : List Name → FileTree × Place
  | [] => (tree, here)
  | name :: rest =>
    match tree.follow 40 here [name] with
    | .ok (.found place) => tree.makeDirectories place rest
    | .ok (.vacant place) => (tree.set place .directory).makeDirectories place rest
    | .error _ => (tree, here)

def add (tree : FileTree) (here : Place) (path : Path) (entry : Entry) : FileTree :=
  let names := (Text.splitAt Path.separator path.bytes).filter fun name =>
    name ≠ [] && name ≠ [Path.dot]
  match entry, names.getLast? with
  | _, none => tree
  | .directory, _ => (tree.makeDirectories here names).1
  | _, some name =>
    let (tree, directory) := tree.makeDirectories here names.dropLast
    tree.set (directory ++ [name]) entry

def under? (base place : Place) : Option Place :=
  if base.isPrefixOf place then some (place.drop base.length) else none

def below (tree : FileTree) (base : Place) (depth : Option Nat) : List (Place × Entry) :=
  tree.entries.filterMap fun (place, entry) => do
    let names ← under? base place
    if names ≠ [] && depth.all (names.length ≤ ·) then some (names, entry) else none

def remove (tree : FileTree) (place : Place) : FileTree :=
  { entries := tree.entries.filter fun entry => !place.isPrefixOf entry.1
    named := fun entry member => tree.named entry (List.mem_filter.mp member).1
    distinct := tree.distinct.sublist (List.filter_sublist.map _) }

def copy (tree : FileTree) (source target : Place) : FileTree :=
  let copies := tree.entries.filterMap fun (place, entry) =>
    (under? source place).map fun names => (target ++ names, entry)
  copies.foldl (fun tree (place, entry) => tree.set place entry) tree

def locateName (tree : FileTree) (here : Place) (path : Path) : Except FileError Located := do
  let name := (path.bytes.reverse.takeWhile (· ≠ Path.separator)).reverse
  let parent := path.bytes.take (path.bytes.length - name.length)
  if name = [] || name = [Path.dot] || name = [Path.dot, Path.dot] then tree.locate here path
  else match (← tree.locate here ⟨if parent = [] then [Path.dot] else parent⟩) with
    | .vacant _ => .error .notFound
    | .found place =>
      if !tree.isDirectoryAt place then .error .notDirectory
      else if name.length > maxName then .error .nameTooLong
      else if (tree.get? (place ++ [name])).isSome then .ok (.found (place ++ [name]))
      else .ok (.vacant (place ++ [name]))

def changes (before after : FileTree) (base : Place) : List (Path × List UInt8) :=
  (after.below base none).filterMap fun (names, entry) =>
    match entry with
    | .file content =>
      if before.get? (base ++ names) = some entry then none
      else some (⟨[Path.separator].intercalate names⟩, content)
    | _ => none

end FileTree

end HouseStyle
