import HouseStyle.Shell.DateFormat
import HouseStyle.Shell.Utility.Files
import HouseStyle.Shell.Utility.Order

namespace HouseStyle.Shell

open Quotation (Style)
open Exec (decimal)

/-! ## What is listed, and how -/

inductive ListFormat where
  | single
  | commas
  | across
  | down
  | long
  deriving DecidableEq, Repr

inductive Marking where
  | nothing
  | directories
  | sorts
  | everything
  deriving DecidableEq, Repr

inductive ListOrder where
  | none
  | name
  | extension
  | width
  | size
  | time
  | version
  deriving DecidableEq, Repr

inductive Hiding where
  | nothing
  | own
  | points
  deriving DecidableEq, Repr

inductive LinkView where
  | directories
  | never
  | operands
  | always
  deriving DecidableEq, Repr

inductive SizeUnit where
  | units (size : Nat)
  | scaled (base : Nat)
  deriving DecidableEq, Repr

structure Listing where
  format : ListFormat := .single
  marking : Marking := .nothing
  order : ListOrder := .name
  reversed : Bool := false
  directoriesFirst : Bool := false
  omits : Hiding := .points
  ignored : List (List Char) := []
  hidden : List (List Char) := []
  style : Style := .literal
  masked : Bool := false
  recursive : Bool := false
  immediate : Bool := false
  view : Option LinkView := none
  numbers : Bool := false
  blocks : Bool := false
  context : Bool := false
  owner : Bool := true
  group : Bool := true
  author : Bool := false
  byNumber : Bool := false
  sizes : SizeUnit := .units 1
  blockUnit : SizeUnit := .units 1024
  width : Nat := 80
  tab : Nat := 8
  color : Bool := false
  lineEnd : Char := '\n'
  timeStyle : List Char := []

structure Listed where
  name : List Char
  place : Place
  entry : Entry
  target : Option (Place × Entry) := none
  mode : Nat := 0
  time : Int := 0
  size : Nat := 0
  names : Nat := 1
  isUnknown : Bool := false

namespace Listing

def Listed.isDirectory (file : Listed) : Bool :=
  file.entry = .directory

def diskSize (file : Listed) : Nat :=
  match file.entry with
  | .directory => 4
  | .link _ | .device _ => 0
  | _ => (file.size + 4095) / 4096 * 4

/-- A size with a letter for its unit, with one digit behind the point if it is small. It is never
less than it is. -/
def scaledSize (base : Nat) : Nat → Nat → List Char → List Char
  | scale, size, [] => decimal ((size + scale - 1) / scale)
  | scale, size, letter :: letters =>
    let next := scale * base
    if size < next then
      if scale = 1 then decimal size
      else
        let tenths := (size * 10 + scale - 1) / scale
        if tenths < 100 then decimal (tenths / 10) ++ ['.'] ++ decimal (tenths % 10) ++ [letter]
        else
          let whole := (size + scale - 1) / scale
          if whole < base then decimal whole ++ [letter]
          else "1.0".toList ++ letters.take 1
    else scaledSize base next size letters

def sizeText (unit : SizeUnit) (bytes : Nat) : List Char :=
  match unit with
  | .units size => decimal ((bytes + size - 1) / size)
  | .scaled base =>
    scaledSize base 1 bytes (' ' :: (if base = 1000 then "kMGTPE" else "KMGTPE").toList)

def mark (marking : Marking) (mode : Nat) (entry : Entry) : List Char :=
  match entry, marking with
  | _, .nothing => []
  | .directory, _ => ['/']
  | _, .directories => []
  | .link _, _ => ['@']
  | .program _, .everything => ['*']
  | .file _, .everything => if Mode.canRun mode then ['*'] else []
  | _, _ => []

def maskedName (listing : Listing) (name : List Char) : List Char :=
  if listing.masked then name.map fun c => if Quotation.isVisible c then c else '?' else name

def isExtraMark (listing : Listing) (c : Char) : Bool :=
  listing.style = .escape && c = ' '

def quotedName (listing : Listing) (name : List Char) : List Char :=
  listing.maskedName (Quotation.styled listing.style listing.isExtraMark name)

def quotedTitle (listing : Listing) (name : List Char) : List Char :=
  listing.maskedName (Quotation.styled listing.style (· = ':') name)

def isAligned (listing : Listing) (files : List Listed) : Bool :=
  let hasColumns := listing.format = .long ||
    ((listing.format = .down || listing.format = .across) && listing.width > 0)
  hasColumns && [Style.shell, .shellEscape, .doubleMaybe].contains listing.style &&
    files.any fun file => Quotation.isQuoted listing.style listing.isExtraMark file.name

def columnsOf (text : List Char) : Nat :=
  (text.filter Quotation.isVisible).length

def colorOf (mode : Nat) : Entry → Option String
  | .directory => some "01;34"
  | .link _ => some "01;36"
  | .device _ => some "40;33;01"
  | .program _ => some "01;32"
  | .file _ => if Mode.canRun mode then some "01;32" else none

/-! ## Order -/

def extension (name : List Char) : List Char :=
  if name.contains '.' then '.' :: (name.reverse.takeWhile (· ≠ '.')).reverse else []

def compareFiles (listing : Listing) (left right : Listed) : Ordering :=
  let byName := Order.text left.name right.name
  match listing.order with
  | .none => .eq
  | .name => byName
  | .extension => (Order.text (extension left.name) (extension right.name)).then byName
  | .width =>
    let width (file : Listed) : Nat := columnsOf (listing.quotedName file.name)
    (Order.natural (width left) (width right)).then byName
  | .size => (Order.natural right.size left.size).then byName
  | .time => (Order.integer right.time left.time).then byName
  | .version => (Order.version left.name right.name).then byName

def precedes (listing : Listing) (left right : Listed) : Bool :=
  let leads (file : Listed) : Bool := file.entry = .directory ||
    file.target.any fun (_, entry) => entry = .directory
  let first := if listing.directoriesFirst && listing.order ≠ .none then
    compare (leads right) (leads left) else .eq
  let order := listing.compareFiles left right
  (first.then (if listing.reversed then order.swap else order)) ≠ .gt

def sorted (listing : Listing) (files : List Listed) : List Listed :=
  if listing.order = .none then files else files.mergeSort listing.precedes

def fits (name pattern : List Char) : Bool :=
  let tokens := globOf (pattern.map fun c => (c, false))
  globMatches tokens name && (name.head? ≠ some '.' || pattern.head? = some '.')

def leavesOut (listing : Listing) (name : List Char) : Bool :=
  let byPoint := match listing.omits with
    | .nothing => false
    | .own => isDots name
    | .points => name.head? = some '.'
  byPoint || (listing.omits = .points && listing.hidden.any (fits name)) ||
    listing.ignored.any (fits name)

/-! ## Setting -/

def padLeft (width : Nat) (text : List Char) : List Char :=
  List.replicate (width - text.length) ' ' ++ text

def padRight (width : Nat) (text : List Char) : List Char :=
  text ++ List.replicate (width - text.length) ' '

def widest (texts : List (List Char)) : Nat :=
  (texts.map List.length).foldl Nat.max 0

def indent (tab : Nat) : Nat → Nat → Nat → List Char
  | 0, _, _ => []
  | steps + 1, start, goal =>
    if goal ≤ start then []
    else if tab ≠ 0 && goal / tab > (start + 1) / tab then
      '\t' :: indent tab steps (start + (tab - start % tab)) goal
    else ' ' :: indent tab steps (start + 1) goal

def columnWidths (byColumns : Bool) (lengths : List Nat) (count : Nat) : List Nat :=
  let total := lengths.length
  let column (index : Nat) : Nat :=
    if byColumns then index / ((total + count - 1) / count) else index % count
  (List.range count).map fun at_ =>
    (lengths.zipIdx.filterMap fun (length, index) =>
      if column index = at_ then some (length + (if at_ = count - 1 then 0 else 2)) else none)
      |>.foldl Nat.max 3

def bestWidths (byColumns : Bool) (width : Nat) (lengths : List Nat) : List Nat :=
  let most := (width + 2) / 3
  let most := if 0 < most && most < lengths.length then most else lengths.length
  let fitting := (List.range most).reverse.filterMap fun before =>
    let widths := columnWidths byColumns lengths (before + 1)
    if before = 0 || widths.foldl (· + ·) 0 < width then some widths else none
  fitting.headD [3]

def row (tab : Nat) : Nat → List Nat → List (List Char × Nat) → List Char
  | _, _, [] => []
  | _, _, [(text, _)] => text
  | position, width :: widths, (text, length) :: cells =>
    let next := position + width
    text ++ indent tab (width + 1) (position + length) next ++ row tab next widths cells
  | _, [], (text, _) :: _ => text

def inColumns (listing : Listing) (byColumns : Bool) (cells : List (List Char × Nat)) :
    List Char :=
  let widths := bestWidths byColumns listing.width (cells.map (·.2))
  let count := widths.length
  let rows := (cells.length + count - 1) / count
  let line (index : Nat) : List (List Char × Nat) :=
    if byColumns then (List.range count).filterMap fun column => cells[column * rows + index]?
    else (cells.drop (index * count)).take count
  (List.range rows).flatMap fun index =>
    row listing.tab 0 widths (line index) ++ [listing.lineEnd]

def inLines (listing : Listing) (separator : Char) : Nat → List (List Char × Nat) → List Char
  | _, [] => []
  | position, (text, length) :: cells =>
    let rest := match cells with
      | [] => []
      | (_, next) :: _ =>
        if listing.width = 0 || position + length + next + 2 < listing.width then
          separator :: ' ' :: inLines listing separator (position + length + 2) cells
        else separator :: listing.lineEnd :: inLines listing separator 0 cells
    text ++ rest

def recent : Int := 15778476

def timeText (listing : Listing) (now : Int) (time : Int) : List Char :=
  let seconds := time / 1000000
  let isRecent := now / 1000000 - recent < seconds && time ≤ now
  let pattern := match String.ofList listing.timeStyle with
    | "full-iso" => "%Y-%m-%d %H:%M:%S.%N %z".toList
    | "long-iso" => "%Y-%m-%d %H:%M".toList
    | "iso" => (if isRecent then "%m-%d %H:%M" else "%Y-%m-%d ").toList
    | _ =>
      if listing.timeStyle.head? = some '+' then
        let lines := Text.splitAt '\n' listing.timeStyle.tail
        if isRecent then (lines[1]?.getD (lines.headD [])) else lines.headD []
      else (if isRecent then "%b %e %H:%M" else "%b %e  %Y").toList
  DateFormat.format time pattern

def sortLetter : Entry → Char
  | .directory => 'd'
  | .link _ => 'l'
  | .device _ => 'c'
  | _ => '-'

def deviceNumbers : Device → String
  | .null => "1, 3"
  | .zero => "1, 5"
  | .full => "1, 7"
  | .stream _ => "136, 0"

def cell (listing : Listing) (aligned : Bool) (numberWidth blockWidth : Nat) (file : Listed)
    (index : Nat) : List Char × Nat :=
  let name := listing.quotedName file.name
  let isQuoted := Quotation.isQuoted listing.style listing.isExtraMark file.name
  let name := if aligned && !isQuoted then ' ' :: name else name
  let start := (if listing.numbers then padLeft numberWidth (decimal (index + 1)) ++ [' '] else []) ++
    (if listing.blocks then
      padLeft blockWidth (if file.isUnknown then ['?']
        else sizeText listing.blockUnit (diskSize file * 1024)) ++ [' '] else []) ++
    (if listing.context then ['?', ' '] else [])
  let ending := if file.isUnknown then [] else mark listing.marking file.mode file.entry
  let shown := match listing.color, colorOf file.mode file.entry with
    | true, some color => "\x1b[".toList ++ color.toList ++ ['m'] ++ name ++ "\x1b[0m".toList
    | _, _ => name
  (start ++ shown ++ ending, columnsOf (start ++ name ++ ending))

def longLines (listing : Listing) (now : Int) (files : List Listed) : List Char :=
  let size (file : Listed) : List Char := match file.entry with
    | .device device => (deviceNumbers device).toList
    | _ => sizeText listing.sizes file.size
  let time (file : Listed) : List Char := listing.timeText now file.time
  let person := if listing.byNumber then ['0'] else "root".toList
  let shownOr (file : Listed) (text : List Char) : List Char := if file.isUnknown then ['?'] else text
  let nameWidth := widest (files.map fun file => shownOr file (decimal file.names))
  let sizeWidth := widest (files.map fun file => shownOr file (size file))
  let timeWidth := widest (files.map time)
  let blockWidth := widest (files.map fun file =>
    sizeText listing.blockUnit (diskSize file * 1024))
  let aligned := listing.isAligned files
  let personColumn (isWanted : Bool) (file : Listed) : List Char :=
    if isWanted then padRight (if files.all (·.isUnknown) then 1 else person.length)
      (shownOr file person) ++ [' '] else []
  files.zipIdx.flatMap fun (file, index) =>
    let plain : Listing := { listing with
      marking := .nothing, numbers := false, blocks := false, context := false }
    let before := (if listing.numbers then decimal (index + 1) ++ [' '] else []) ++
      (if listing.blocks then
        padLeft blockWidth (sizeText listing.blockUnit (diskSize file * 1024)) ++ [' '] else [])
    let name := (plain.cell aligned 0 0 file 0).1
    let letters := if file.isUnknown then "??????????".toList.set 0 (sortLetter file.entry)
      else sortLetter file.entry :: Mode.letters file.mode
    let link := match file.entry with
      | .link target =>
        let shown := plain.quotedName (ofBytes target.bytes)
        let ending := match file.target with
          | some (_, entry) => mark listing.marking 0o644 entry
          | none => []
        if file.isUnknown then [] else " -> ".toList ++ shown ++ ending
      | entry => mark listing.marking file.mode entry
    before ++ letters ++ [' '] ++ padLeft nameWidth (shownOr file (decimal file.names)) ++ [' '] ++
      personColumn listing.owner file ++ personColumn listing.group file ++
      personColumn listing.author file ++ (if listing.context then ['?', ' '] else []) ++
      padLeft sizeWidth (shownOr file (size file)) ++ [' '] ++
      padLeft timeWidth (shownOr file (time file)) ++ [' '] ++ name ++ link ++ [listing.lineEnd]

def text (listing : Listing) (now : Int) (files : List Listed) : List Char :=
  let blockWidth := if listing.format = .commas then 0
    else widest (files.map fun file => sizeText listing.blockUnit (diskSize file * 1024))
  let numberWidth := if listing.format = .commas then 0 else (decimal files.length).length
  let aligned := listing.isAligned files
  let cells := files.zipIdx.map fun (file, index) =>
    listing.cell aligned numberWidth blockWidth file index
  if files = [] then []
  else match listing.format with
    | .single => cells.flatMap fun (text, _) => text ++ [listing.lineEnd]
    | .commas => listing.inLines ',' 0 cells ++ [listing.lineEnd]
    | .across | .down =>
      if listing.width = 0 then listing.inLines ' ' 0 cells ++ [listing.lineEnd]
      else listing.inColumns (listing.format = .down) cells
    | .long => listing.longLines now files

end Listing

namespace Exec

/-! ## Finding files -/

def listedAt (name : List Char) (place : Place) (entry : Entry) : Exec Listed := do
  let machine ← get
  let target := match entry with
    | .link target =>
      match machine.tree.find place.dropLast target with
      | .ok found => some found
      | .error _ => none
    | _ => none
  let inside := machine.tree.below place (some 1)
  pure {
    name, place, entry, target
    mode := ← modeAt place
    time := ← timeAt place
    size := match entry with
      | .file content => content.length
      | .directory => 4096
      | .link target => target.bytes.length
      | _ => 0
    names := match entry with
      | .directory => 2 + (inside.filter fun (_, entry) => entry = .directory).length
      | _ => (machine.twins place).length }

def listedOperand (listing : Listing) (path : List Char) : Exec (Option Listed) := do
  let named := entryAt false path
  let refuse (error : FileError) : Exec (Option Listed) := do
    let _ ← refusePath "cannot access" path error.reason
    pure none
  let take (found : Except FileError (Place × Entry)) : Exec (Option Listed) := do
    match found with
    | .ok (place, entry) => do pure (some (← listedAt path place entry))
    | .error error => refuse error
  match listing.view.getD .directories with
  | .never => do take (← named)
  | .always => do take (← entryAt true path)
  | .operands => do
    match (← entryAt true path) with
    | .ok found => take (.ok found)
    | .error .notFound => do take (← named)
    | .error error => refuse error
  | .directories => do
    match (← entryAt true path) with
    | .ok (place, .directory) => take (.ok (place, .directory))
    | .error .notDirectory => refuse .notDirectory
    | _ => do take (← named)

def listedIn (listing : Listing) (title : List Char) (directory : Place) (name : List Char) :
    Exec (Listed × Bool) := do
  let place := if name = ['.'] then directory
    else if name = ['.', '.'] then directory.dropLast
    else directory ++ [(pathOf name).bytes]
  let entry := ((← get).tree.get? place).getD .directory
  let file ← listedAt name place entry
  let needsDetail := listing.format = .long || listing.blocks || listing.color ||
    listing.directoriesFirst || listing.order = .size || listing.order = .time ||
    listing.marking ≠ .nothing || listing.recursive || listing.context
  match listing.view, entry with
  | some .always, .link _ =>
    match file.target with
    | some (place, entry) => do pure (← listedAt name place entry, true)
    | none => do
      if needsDetail then
        let path := if title = ['.'] then name else pathIn title name
        let error := match (← entryAt true path) with
          | .error error => error
          | .ok _ => .notFound
        let _ ← refusePath "cannot access" path error.reason
        pure ({ file with isUnknown := listing.format = .long || listing.blocks }, false)
      else pure (file, true)
  | _, _ => pure (file, true)

def putListing (listing : Listing) (files : List Listed) : Exec Unit := do
  let text := listing.text (← get).now files
  let isColored := listing.color && files.any fun file =>
    (Listing.colorOf file.mode file.entry).isSome
  if isColored then
    let plain := text.takeWhile (· ≠ '\x1b')
    put (plain ++ "\x1b[0m".toList ++ text.drop plain.length)
  else put text

/-- List directories, each under its title, and those in them if that is wanted. `isFirst` tells that
nothing was listed before. -/
def listDirectories (listing : Listing) (titled : Bool) :
    Nat → Bool → List (List Char × Place) → Exec Bool
  | 0, _, _ => pure true
  | _ + 1, _, [] => pure true
  | steps + 1, isFirst, (title, place) :: pending => do
    let names := ((← get).tree.below place (some 1)).filterMap fun (names, _) => names.head?
    let names := [['.'], ['.', '.']] ++ names.map ofPath
    let chosen := names.filter fun name => !listing.leavesOut name
    let found ← chosen.mapM (listedIn listing title place)
    let files := listing.sorted (found.map (·.1))
    if titled || listing.recursive then
      put ((if isFirst then [] else ['\n']) ++ listing.quotedTitle title ++ [':', '\n'])
    if listing.format = .long || listing.blocks then
      let total := files.foldl (fun total file => total + Listing.diskSize file) 0
      put ("total ".toList ++ Listing.sizeText listing.blockUnit (total * 1024) ++
        [listing.lineEnd])
    putListing listing files
    let inner := if !listing.recursive then []
      else (files.filter fun file => file.entry = .directory && !isDots file.name).map fun file =>
        (pathIn title file.name, file.place)
    let isGood ← listDirectories listing titled steps false (inner ++ pending)
    pure (isGood && found.all (·.2))

def maxListed : Nat := 10000

/-! ## Options -/

def quotingStyles : List (String × Style) :=
  [("literal", .literal), ("shell", .shell), ("shell-always", .shellAlways),
    ("shell-escape", .shellEscape), ("shell-escape-always", .shellEscapeAlways), ("c", .double),
    ("c-maybe", .doubleMaybe), ("escape", .escape), ("locale", .single), ("clocale", .double)]

def columnCount? (word : List Char) : Option Nat :=
  if word.head? = some '0' && word.tail.all Arithmetic.isOctal then
    some (Text.digitsValue 8 word)
  else count? word

def sizeUnit? (word : List Char) : Option SizeUnit :=
  if word = "human-readable".toList then some (.scaled 1024)
  else if word = "si".toList then some (.scaled 1000)
  else match amountOf "kKmMgGtTPEZY" (if word.head? = some '\'' then word.tail else word) with
    | .ok 0 | .error _ => none
    | .ok size => some (.units size)

def takeChoice (name : String) (choices : List (List String)) (word : List Char)
    (use : String → Exec (Except Nat Listing)) : Exec (Except Nat Listing) := do
  match (← choiceOf name choices word) with
  | none => pure (.error 1)
  | some choice => use choice

def listingOptions : List (Char × List Char) → Listing → Exec (Except Nat Listing)
  | [], listing => pure (.ok listing)
  | (letter, word) :: rest, listing => do
    let go := listingOptions rest
    let whens := [["always", "yes", "force"], ["never", "no", "none"], ["auto", "tty", "if-tty"]]
    match letter with
    | '1' => if listing.format = .long then go listing else go { listing with format := .single }
    | 'a' => go { listing with omits := .nothing }
    | 'A' => go { listing with omits := .own }
    | 'b' => go { listing with style := .escape }
    | 'B' => go { listing with ignored := "*~".toList :: ".*~".toList :: listing.ignored }
    | 'C' => go { listing with format := .down }
    | 'd' => go { listing with immediate := true }
    | 'f' => go { listing with
        omits := .nothing
        order := .none
        format := if listing.format = .long then .single else listing.format
        blocks := false
        color := false }
    | 'F' => go { listing with marking := .everything }
    | 'φ' =>
      if word = [] then go { listing with marking := .everything }
      else
        takeChoice "--classify" whens word fun choice =>
          go { listing with
            marking := if choice = "always" then .everything else listing.marking }
    | 'g' => go { listing with format := .long, owner := false }
    | 'G' => go { listing with group := false }
    | 'h' => go { listing with sizes := .scaled 1024, blockUnit := .scaled 1024 }
    | 'H' => go { listing with view := some .operands }
    | 'i' => go { listing with numbers := true }
    | 'I' => go { listing with ignored := word :: listing.ignored }
    | 'l' => go { listing with format := .long }
    | 'L' => go { listing with view := some .always }
    | 'm' => go { listing with format := .commas }
    | 'n' => go { listing with format := .long, byNumber := true }
    | 'N' => go { listing with style := .literal }
    | 'o' => go { listing with format := .long, group := false }
    | 'p' => go { listing with marking := .directories }
    | 'q' => go { listing with masked := true }
    | 'Q' => go { listing with style := .double }
    | 'r' => go { listing with reversed := true }
    | 'R' => go { listing with recursive := true }
    | 's' => go { listing with blocks := true }
    | 'S' => go { listing with order := .size }
    | 't' => go { listing with order := .time }
    | 'U' => go { listing with order := .none }
    | 'v' => go { listing with order := .version }
    | 'x' => go { listing with format := .across }
    | 'X' => go { listing with order := .extension }
    | 'Z' => go { listing with context := true }
    | 'c' | 'u' =>
      go (if listing.format = .long || rest.any (fun option => "lgno".toList.contains option.1)
        then listing else { listing with order := .time })
    | 'T' =>
      match columnCount? word with
      | some tab => go { listing with tab }
      | none => do
        programError ("invalid tab size: ".toList ++ quoted word)
        pure (.error 2)
    | 'w' =>
      match columnCount? word with
      | some width => go { listing with width }
      | none => do
        programError ("invalid line width: ".toList ++ quoted word)
        pure (.error 2)
    | 'δ' => go { listing with directoriesFirst := true }
    | 'η' => go { listing with hidden := word :: listing.hidden }
    | 'κ' => go { listing with view := some .directories }
    | 'θ' => go { listing with format := .long, timeStyle := "full-iso".toList }
    | 'ψ' => go { listing with marking := .sorts }
    | 'μ' => go { listing with masked := false }
    | 'λ' => go { listing with author := true }
    | 'ι' => go { listing with sizes := .scaled 1000, blockUnit := .scaled 1000 }
    | 'ζ' => go { listing with
        lineEnd := '\x00'
        masked := false
        color := false
        style := .literal
        format := if listing.format = .long then .long else .single }
    | 'β' =>
      match sizeUnit? word with
      | some unit => go { listing with sizes := unit, blockUnit := unit }
      | none => do
        programError ("invalid --block-size argument ".toList ++ quoted word)
        pure (.error 2)
    | 'χ' =>
      if word = [] then go { listing with color := true }
      else
        takeChoice "--color" whens word fun choice =>
          go { listing with color := choice = "always" }
    | 'υ' =>
      if word = [] then go listing
      else takeChoice "--hyperlink" whens word fun _ => go listing
    | 'σ' =>
      takeChoice "--sort" [["none"], ["time"], ["size"], ["extension"], ["version"], ["width"]]
        word fun choice => go { listing with order := match choice with
          | "none" => .none
          | "time" => .time
          | "size" => .size
          | "extension" => .extension
          | "version" => .version
          | _ => .width }
    | 'τ' =>
      takeChoice "--time" [["atime", "access", "use"], ["ctime", "status"],
        ["mtime", "modification"], ["birth", "creation"]] word fun _ =>
        go (if listing.format = .long then listing else { listing with order := .time })
    | 'ο' =>
      takeChoice "--format" [["verbose", "long"], ["commas"], ["horizontal", "across"],
        ["vertical"], ["single-column"]] word fun choice => go { listing with
          format := match choice with
            | "verbose" => .long
            | "commas" => .commas
            | "horizontal" => .across
            | "vertical" => .down
            | _ => .single }
    | 'ν' =>
      takeChoice "--indicator-style" [["none"], ["slash"], ["file-type"], ["classify"]] word
        fun choice => go { listing with marking := match choice with
          | "none" => .nothing
          | "slash" => .directories
          | "file-type" => .sorts
          | _ => .everything }
    | 'ω' =>
      takeChoice "--quoting-style" (quotingStyles.map fun (name, _) => [name]) word
        fun choice => go { listing with style := (quotingStyles.lookup choice).getD .literal }
    | 'ε' => go { listing with timeStyle := word }
    | _ => go listing

def checkTimeStyle (listing : Listing) : Exec (Option Listing) := do
  let word := if "posix-".toList.isPrefixOf listing.timeStyle then [] else listing.timeStyle
  let names := ["full-iso", "long-iso", "iso", "locale"]
  if word = [] || word.head? = some '+' then pure (some { listing with timeStyle := word })
  else match names.filter (·.toList = word), names.filter fun name => word.isPrefixOf name.toList with
    | name :: _, _ | [], [name] => pure (some { listing with timeStyle := name.toList })
    | [], several => do
      let fault := if several = [] then "invalid" else "ambiguous"
      programError (fault.toList ++ " argument ".toList ++ quoted word ++
        " for 'time style'".toList)
      report ("Valid arguments are:\n  - [posix-]full-iso\n  - [posix-]long-iso\n  - [posix-]iso\n".toList
        ++ "  - [posix-]locale\n  - +FORMAT (e.g., +%H:%M) for a 'date'-style format\n".toList)
      hint
      pure none

def quotingOutside? : Exec (Option Style) := do
  match (← environment? "QUOTING_STYLE") with
  | none => pure none
  | some word => do
    let style? := quotingStyles.lookup (String.ofList word)
    if style?.isNone then
      programError
        ("ignoring invalid value of environment variable QUOTING_STYLE: ".toList ++ quoted word)
    pure style?

def listingOutside : Exec Listing := do
  pure { style := (← quotingOutside?).getD .literal }

def listingWidth (listing : Listing) (arguments : Arguments) : Exec Listing := do
  let isUsed := listing.format = .down || listing.format = .across || listing.format = .commas
  if arguments.has 'w' || !isUsed then pure listing
  else match (← environment? "COLUMNS") with
    | none | some [] => pure listing
    | some word =>
      match columnCount? word with
      | some 0 => pure listing
      | some width => pure { listing with width }
      | none => do
        programError
          ("ignoring invalid width in environment variable COLUMNS: ".toList ++ quoted word)
        pure listing

def colorTerminals : List String :=
  ["Eterm", "ansi", "*color*", "con[0-9]*x[0-9]*", "cons25", "console", "cygwin", "*direct*",
    "dtterm", "gnome", "hurd", "jfbterm", "konsole", "kterm", "linux", "linux-c", "mlterm", "putty",
    "rxvt*", "screen*", "st", "terminator", "tmux*", "vt100", "xterm*"]

def hasColors : Exec Bool := do
  let named ← environment? "LS_COLORS"
  let colorful ← environment? "COLORTERM"
  let terminal := (← environment? "TERM").getD []
  pure (named.any (· ≠ []) || colorful.any (· ≠ []) ||
    colorTerminals.any fun pattern =>
      globMatches (globOf (pattern.toList.map fun c => (c, false))) terminal)

def listForms : List OptionForm :=
  OptionForm.letters "1bCcDfFgGHiklmnNoqQrsStuUvxXZ" ++
    OptionForm.named [('a', "all"), ('A', "almost-all"), ('λ', "author"), ('b', "escape"),
      ('B', "ignore-backups"), ('d', "directory"), ('D', "dired"), ('ψ', "file-type"),
      ('θ', "full-time"), ('δ', "group-directories-first"), ('G', "no-group"),
      ('h', "human-readable"), ('ι', "si"), ('H', "dereference-command-line"),
      ('κ', "dereference-command-line-symlink-to-dir"), ('i', "inode"), ('k', "kibibytes"),
      ('L', "dereference"), ('n', "numeric-uid-gid"), ('N', "literal"),
      ('q', "hide-control-chars"), ('μ', "show-control-chars"), ('Q', "quote-name"),
      ('r', "reverse"), ('R', "recursive"), ('s', "size"), ('Z', "context"), ('ζ', "zero"),
      ('p', "p")] ++
    OptionForm.namedValued [('β', "block-size"), ('ο', "format"), ('η', "hide"),
      ('ν', "indicator-style"), ('I', "ignore"), ('ω', "quoting-style"), ('σ', "sort"),
      ('τ', "time"), ('ε', "time-style"), ('T', "tabsize"), ('w', "width")] ++
    [{ letter := 'φ', name := "classify", demand := .optional },
      { letter := 'χ', name := "color", demand := .optional },
      { letter := 'υ', name := "hyperlink", demand := .optional }]

def ls (words : List (List Char)) : Exec Nat := do
  let outside ← listingOutside
  let forms := listForms.map fun form => if form.name = "p" then { form with name := "" } else form
  withOptions 2 .mixed forms words (listingOptions · outside) fun listing arguments => do
    let listing ← listingWidth listing arguments
    let isColored := listing.color && (← hasColors)
    let listing := { listing with color := isColored }
    let view := match listing.view with
      | some view => view
      | none =>
        if listing.immediate || listing.marking = .everything || listing.format = .long then .never
        else .directories
    let checked ← if listing.format = .long then checkTimeStyle { listing with view := some view }
      else pure (some { listing with view := some view })
    match checked with
    | none => pure 2
    | some listing => do
      let operands := if arguments.operands = [] then [['.']] else arguments.operands
      let found ← operands.mapM (listedOperand listing)
      let files := listing.sorted (found.filterMap id)
      let isOpened (file : Listed) : Bool := file.entry = .directory && !listing.immediate
      let (directories, others) := files.partition isOpened
      putListing listing others
      if others ≠ [] && directories ≠ [] then put ['\n']
      let titled := arguments.operands.length > 1 || others ≠ []
      let isGood ← listDirectories listing titled maxListed true
        (directories.map fun file => (file.name, file.place))
      pure (if found.any Option.isNone then 2 else if isGood then 0 else 1)

end Exec

end HouseStyle.Shell
