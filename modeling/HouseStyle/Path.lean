import HouseStyle.Text.Find
import HouseStyle.Text.Utf8

/-!
# Paths

A path is kept as the bytes it was given as, which need not be those of any text, and compared by
its components. Empty pieces and pieces `.` are no components, so `a/b`, `a//b` and `a/./b` are one
path; only a `.` at the very start is one, so `./a` and `a` differ.
-/

namespace HouseStyle

abbrev Name := List UInt8

@[ext] structure Path where
  bytes : List UInt8
  deriving DecidableEq, Repr

inductive Component where
  | root
  | current
  | parent
  | normal (name : Name)
  deriving DecidableEq, Repr

namespace Component

def rank : Component → Nat
  | root => 0
  | current => 1
  | parent => 2
  | normal _ => 3

def before (left right : Component) : Bool :=
  match left, right with
  | normal a, normal b => decide (a < b)
  | _, _ => left.rank < right.rank

end Component

namespace Path

def separator : UInt8 := 0x2F

def dot : UInt8 := 0x2E

/-! ## Paths and texts -/

def ofText (text : String) : Path :=
  ⟨Text.encode text.toList⟩

instance : Coe String Path where
  coe := ofText

def text? (path : Path) : Option String :=
  (Text.decode? path.bytes).map String.ofList

/-- The path as people see it. Names that are no text can look the same. -/
def display (path : Path) : String :=
  String.ofList (Text.decodeLossy path.bytes)

/-! ## Components -/

def components (path : Path) : List Component :=
  let start :=
    if path.bytes.head? = some separator then [.root]
    else if path.bytes = [dot] || [dot, separator].isPrefixOf path.bytes then [.current]
    else []
  let named := (Text.splitAt separator path.bytes).filter fun piece => piece ≠ [] && piece ≠ [dot]
  start ++ named.map fun piece => if piece = [dot, dot] then .parent else .normal piece

def same (left right : Path) : Bool :=
  left.components = right.components

def componentsBefore : List Component → List Component → Bool
  | [], [] => false
  | [], _ :: _ => true
  | _ :: _, [] => false
  | a :: left, b :: right => if a = b then componentsBefore left right else a.before b

def before (left right : Path) : Bool :=
  componentsBefore left.components right.components

def sort (paths : List Path) : List Path :=
  paths.mergeSort fun left right => !before right left

/-- Of paths that are the same and follow each other only the first stays. -/
def dropRepeated : List Path → List Path
  | [] => []
  | path :: rest =>
    match dropRepeated rest with
    | [] => [path]
    | next :: more => if same path next then path :: more else path :: next :: more

/-! ## Parts of paths -/

def isAbsolute (path : Path) : Bool :=
  path.bytes.head? = some separator

def join (base name : Path) : Path :=
  if name.isAbsolute then name
  else if base.bytes = [] || base.bytes.getLast? = some separator then ⟨base.bytes ++ name.bytes⟩
  else ⟨base.bytes ++ separator :: name.bytes⟩

def extend (base : Path) (names : List Name) : Path :=
  names.foldl (fun path name => path.join ⟨name⟩) base

def fileName? (path : Path) : Option Name :=
  match path.components.getLast? with
  | some (.normal name) => some name
  | _ => none

def extension? (path : Path) : Option (List UInt8) :=
  match path.fileName? with
  | none => none
  | some name =>
    let last := (name.reverse.takeWhile (· ≠ dot)).reverse
    if last.length + 1 < name.length then some last else none

def hasExtension (path : Path) (wanted : String) : Bool :=
  path.extension? = some (ofText wanted).bytes

def dropIdle : List UInt8 → List UInt8
  | 0x2F :: rest => dropIdle rest
  | 0x2E :: 0x2F :: rest => dropIdle rest
  | [0x2E] => []
  | bytes => bytes

def dropNames : Nat → List UInt8 → List UInt8
  | 0, bytes => bytes
  | count + 1, bytes => dropNames count ((dropIdle bytes).dropWhile (· ≠ separator))

/-- What is left of `path` below the directory `base`, if its components start with those of
`base`. -/
def stripBase? (base path : Path) : Option Path :=
  let below := base.components
  if below = [] then some path
  else if below.isPrefixOf path.components then
    let names := below.countP fun c => c ≠ .root && c ≠ .current
    let rest := dropIdle (dropNames names path.bytes)
    some ⟨(dropIdle rest.reverse).reverse⟩
  else none

end Path

end HouseStyle
