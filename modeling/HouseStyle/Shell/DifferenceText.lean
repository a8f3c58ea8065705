import HouseStyle.Shell.Difference
import HouseStyle.Shell.Regex.Plan

namespace HouseStyle.Shell

inductive DiffStyle where
  | normal
  | context (around : Nat)
  | unified (around : Nat)
  | script
  | forwardScript
  | counted
  | sideBySide
  | merged (name : List Char)
  deriving DecidableEq, Repr

namespace DiffStyle

def showsEnds : DiffStyle → Bool
  | script | forwardScript => false
  | _ => true

def around : DiffStyle → Nat
  | context around | unified around => around
  | _ => 0

end DiffStyle

structure DiffSide where
  title : List Char
  lines : Array (List Char)
  complete : Bool

structure DiffLayout where
  style : DiffStyle := .normal
  expanded : Bool := false
  tabbed : Bool := false
  tabSize : Nat := 8
  width : Nat := 130
  leftColumn : Bool := false
  onlyChanges : Bool := false
  title : Option Regex.Plan := none
  trivial : Option (List Char → Bool) := none

namespace DiffLayout

/-- The numbers of the lines of a change, with the first and the last one of each file. A change
without lines stands between two lines. -/
structure Span where
  first : Int
  last : Int

def Span.count (span : Span) : Nat :=
  (span.last - span.first + 1).toNat

def Span.indexes (span : Span) : List Nat :=
  (List.range span.count).map (span.first.toNat + ·)

def spans (hunk : List Change) : Span × Span :=
  let first := hunk.head?.getD ⟨0, 0, 0, 0⟩
  let last := hunk.getLast?.getD first
  (⟨first.left, (last.left : Int) + last.deleted - 1⟩,
    ⟨first.right, (last.right : Int) + last.inserted - 1⟩)

def decimal (number : Int) : List Char :=
  (toString number).toList

def range (separator : Char) (span : Span) : List Char :=
  let first := span.first + 1
  let last := span.last + 1
  if first < last then decimal first ++ [separator] ++ decimal last else decimal last

def unifiedRange (span : Span) : List Char :=
  let first := span.first + 1
  let last := span.last + 1
  if last < first then decimal last ++ [',', '0']
  else if last = first then decimal last
  else decimal first ++ [','] ++ decimal (last - first + 1)

/-! ## Lines -/

def withBlanks (tabSize : Nat) (text : List Char) : List Char :=
  let (written, _) := text.foldl (fun (written, column) c =>
    match c with
    | '\t' =>
      let count := tabSize - column % tabSize
      (List.replicate count ' ' ++ written, column + count)
    | '\r' => (c :: written, 0)
    | '\x08' => if column = 0 then (written, 0) else (c :: written, column - 1)
    | c => (c :: written, column + 1)) (([] : List Char), 0)
  written.reverse

def isOpen (side : DiffSide) (index : Nat) : Bool :=
  !side.complete && index + 1 = side.lines.size

def lineText (layout : DiffLayout) (side : DiffSide) (index : Nat) : List Char :=
  let text := side.lines.getD index []
  if layout.expanded then withBlanks layout.tabSize text else text

def lineEnd (side : DiffSide) (index : Nat) : List Char :=
  if isOpen side index then "\n\\ No newline at end of file\n".toList else ['\n']

def flagged (layout : DiffLayout) (flag : Char) (side : DiffSide) (index : Nat) : List Char :=
  flag :: (if layout.tabbed then '\t' else ' ') :: layout.lineText side index ++ lineEnd side index

def marked (layout : DiffLayout) (flag : Char) (side : DiffSide) (index : Nat) : List Char :=
  flag :: (if layout.tabbed then ['\t'] else []) ++ layout.lineText side index ++
    lineEnd side index

/-! ## Changes that count -/

def isTrivial (layout : DiffLayout) (left right : DiffSide) (hunk : List Change) : Bool :=
  match layout.trivial with
  | none => false
  | some trivial =>
    let lines (side : DiffSide) (start count : Nat) : List (List Char) :=
      (List.range count).map fun index => side.lines.getD (start + index) []
    hunk.all fun change =>
      (lines left change.left change.deleted).all trivial &&
        (lines right change.right change.inserted).all trivial

def hunks (layout : DiffLayout) (left right : DiffSide) (changes : List Change) :
    List (List Change) :=
  let around := layout.style.around
  let isTrivial (change : Change) : Bool := layout.isTrivial left right [change]
  match layout.style with
  | .context _ | .unified _ =>
    changes.splitBy fun earlier later =>
      let limit := if isTrivial earlier || isTrivial later then around else 2 * around + 1
      later.left - (earlier.left + earlier.deleted) < limit
  | _ => changes.map ([·])

def letter (spans : Span × Span) : Char :=
  if spans.1.count = 0 then 'a' else if spans.2.count = 0 then 'd' else 'c'

/-! ## Styles -/

def normalHunk (layout : DiffLayout) (left right : DiffSide) (hunk : List Change) : List Char :=
  let (old, new) := spans hunk
  range ',' old ++ [letter (old, new)] ++ range ',' new ++ ['\n'] ++
    old.indexes.flatMap (layout.flagged '<' left) ++
    (if old.count > 0 && new.count > 0 then "---\n".toList else []) ++
    new.indexes.flatMap (layout.flagged '>' right)

/-- Commands put in lines up to a dot. A line of one dot gets another one, which is taken away
then. -/
def insertedText (layout : DiffLayout) (right : DiffSide) (indexes : List Nat) : List Char :=
  let (written, inserting) := indexes.foldl (fun (written, inserting) index =>
    let start := if inserting then [] else ['a', '\n']
    if right.lines.getD index [] = ['.'] then
      (("..\n.\ns/.//\n".toList :: start :: written), false)
    else ((layout.lineText right index ++ ['\n']) :: start :: written, true))
    (([] : List (List Char)), true)
  written.reverse.flatten ++ (if inserting then ['.', '\n'] else [])

def scriptHunk (layout : DiffLayout) (right : DiffSide) (hunk : List Change) : List Char :=
  let (old, new) := spans hunk
  range ',' old ++ [letter (old, new), '\n'] ++
    (if new.count = 0 then [] else layout.insertedText right new.indexes)

def forwardHunk (layout : DiffLayout) (right : DiffSide) (hunk : List Change) : List Char :=
  let (old, new) := spans hunk
  letter (old, new) :: range ' ' old ++ ['\n'] ++
    (if new.count = 0 then []
      else new.indexes.flatMap (fun index => layout.lineText right index ++ ['\n']) ++ ['.', '\n'])

def countedHunk (layout : DiffLayout) (right : DiffSide) (hunk : List Change) : List Char :=
  let (old, new) := spans hunk
  (if old.count = 0 then []
    else 'd' :: decimal (old.first + 1) ++ [' '] ++ decimal old.count ++ ['\n']) ++
    (if new.count = 0 then []
      else 'a' :: decimal (old.last + 1) ++ [' '] ++ decimal new.count ++ ['\n'] ++
        new.indexes.flatMap fun index =>
          layout.lineText right index ++ (if isOpen right index then [] else ['\n']))

def widened (around : Nat) (left right : DiffSide) (spans : Span × Span) : Span × Span :=
  let widen (side : DiffSide) (span : Span) : Span :=
    { first := if span.first < around then 0 else span.first - around
      last := if span.last + around < side.lines.size then span.last + around
        else (side.lines.size : Int) - 1 }
  (widen left spans.1, widen right spans.2)

def titleBefore (layout : DiffLayout) (left : DiffSide) (line : Int) : List Char :=
  match layout.title with
  | none => []
  | some plan =>
    match ((left.lines.toList.take line.toNat).reverse.find? plan.isIn) with
    | none => []
    | some text =>
      let isBlank (c : Char) : Bool := c = ' ' || ('\t' ≤ c && c ≤ '\r')
      let shown := (text.dropWhile isBlank).take 40
      ' ' :: (shown.reverse.dropWhile isBlank).reverse

def unifiedHunk (layout : DiffLayout) (left right : DiffSide) (hunk : List Change) : List Char :=
  let (old, new) := widened layout.style.around left right (spans hunk)
  let head := "@@ -".toList ++ unifiedRange old ++ " +".toList ++ unifiedRange new ++
    " @@".toList ++ layout.titleBefore left old.first ++ ['\n']
  let (body, next) := hunk.foldl (fun (body, next) change =>
    let same := (List.range (change.left - next)).map (next + ·)
    (body ++ same.flatMap (layout.marked ' ' left) ++
      (List.range change.deleted).flatMap (fun k => layout.marked '-' left (change.left + k)) ++
      (List.range change.inserted).flatMap (fun k => layout.marked '+' right (change.right + k)),
      change.left + change.deleted)) (([] : List Char), old.first.toNat)
  head ++ body ++
    ((List.range (old.last + 1 - next).toNat).map (next + ·)).flatMap (layout.marked ' ' left)

/-- The flag of a line among changes, of which each has its first line and the number of its lines
in this file and in the other one. -/
def flagOf (flag : Char) (changes : List (Nat × Nat × Nat)) (index : Nat) : Char :=
  match changes.find? fun (start, count, _) => start ≤ index && index < start + count with
  | some (_, _, 0) => flag
  | some _ => '!'
  | none => ' '

def contextHunk (layout : DiffLayout) (left right : DiffSide) (hunk : List Change) : List Char :=
  let (oldPart, newPart) := spans hunk
  let deletes := hunk.any (·.deleted > 0)
  let inserts := hunk.any (·.inserted > 0)
  let (old, new) := widened layout.style.around left right (oldPart, newPart)
  let oldChanges := hunk.map fun change => (change.left, change.deleted, change.inserted)
  let newChanges := hunk.map fun change => (change.right, change.inserted, change.deleted)
  "***************".toList ++ layout.titleBefore left old.first ++ "\n*** ".toList ++
    range ',' old ++ " ****\n".toList ++
    (if deletes then old.indexes.flatMap fun index =>
        layout.flagged (flagOf '-' oldChanges index) left index else []) ++
    "--- ".toList ++ range ',' new ++ " ----\n".toList ++
    (if inserts then new.indexes.flatMap fun index =>
        layout.flagged (flagOf '+' newChanges index) right index else [])

/-! ## Side by side -/

def columns (layout : DiffLayout) : Nat × Nat :=
  let tab := if layout.expanded then 1 else layout.tabSize
  let gutter := tab + 3
  let start := layout.width / 2 + gutter / 2 + (layout.width % 2) * (gutter % 2)
  let start := start - start % tab
  let half := Nat.min (start - 3) (layout.width - start)
  (half, if half = 0 then layout.width else start)

def gap (layout : DiffLayout) (start goal : Nat) : List Char :=
  let tab := layout.tabSize
  let stop := goal - goal % tab
  if layout.expanded || stop ≤ start then List.replicate (goal - start) ' '
  else
    let tabs := stop / tab - start / tab
    List.replicate tabs '\t' ++ List.replicate (goal - stop) ' '

/-- The start of a line that fits into a column, and where it ends. The column itself starts
somewhere. -/
def half (layout : DiffLayout) (start bound : Nat) (text : List Char) : List Char × Nat :=
  let (written, _, column) := text.foldl (fun (written, position, column) c =>
    match c with
    | '\t' =>
      let count := layout.tabSize - position % layout.tabSize
      let stop := column + count
      if position ≠ column then (written, position + count, column)
      else if layout.expanded then
        let stop := Nat.min stop bound
        (List.replicate (stop - column) ' ' ++ written, position + count, Nat.max column stop)
      else if stop < bound then (c :: written, position + count, stop)
      else (written, position + count, column)
    | '\r' => ((layout.gap 0 start).reverse ++ c :: written, 0, 0)
    | '\x08' =>
      if position = 0 then (written, position, column)
      else if bound ≤ position - 1 then (written, position - 1, column)
      else if column ≤ position - 1 then
        (List.replicate (position - 1 - column) ' ' ++ written, position - 1, position - 1)
      else (c :: written, position - 1, position - 1)
    | c =>
      if c.toNat < 32 || 127 ≤ c.toNat then
        (if position < bound then c :: written else written, position, column)
      else if position < bound then (c :: written, position + 1, position + 1)
      else (written, position + 1, column)) (([] : List Char), 0, 0)
  (written.reverse, column)

def pair (layout : DiffLayout) (left right : DiffSide) (first : Option Nat) (sign : Char)
    (second : Option Nat) : List Char :=
  let (bound, start) := layout.columns
  let (text, column) := match first with
    | some index => layout.half 0 bound (left.lines.getD index [])
    | none => ([], 0)
  let hasEnd (side : DiffSide) (index : Option Nat) : Bool := index.any (!isOpen side ·)
  let leftEnd := hasEnd left first
  let rightEnd := hasEnd right second
  let sign := if sign = '|' && leftEnd ≠ rightEnd then (if leftEnd then '/' else '\\') else sign
  let (middle, column) := if sign = ' ' then ([], column)
    else
      let goal := (bound + start - 1) / 2
      (layout.gap column goal ++ [sign], goal + 1)
  let ending := match second with
    | none => []
    | some index =>
      match right.lines.getD index [] with
      | [] => if isOpen right index then layout.gap column start else []
      | text => layout.gap column start ++ (layout.half start bound text).1
  text ++ middle ++ ending ++ (if leftEnd || rightEnd then ['\n'] else [])

def pairsOfSame (layout : DiffLayout) (left right : DiffSide) (i j i' j' : Nat) : List Char :=
  if layout.onlyChanges then []
  else if layout.leftColumn then
    (List.range (i' - i)).flatMap fun k => layout.pair left right (some (i + k)) '(' none
  else
    let both := Nat.min (i' - i) (j' - j)
    (List.range both).flatMap (fun k =>
        layout.pair left right (some (i + k)) ' ' (some (j + k))) ++
      (List.range (j' - j - both)).flatMap (fun k =>
        layout.pair left right none ')' (some (j + both + k))) ++
      (List.range (i' - i - both)).flatMap fun k =>
        layout.pair left right (some (i + both + k)) '(' none

def pairs (layout : DiffLayout) (left right : DiffSide) (changes : List Change) : List Char :=
  let counted := changes.filter fun change => !layout.isTrivial left right [change]
  let (text, i, j) := counted.foldl (fun (text, i, j) change =>
    let both := Nat.min change.deleted change.inserted
    let same := layout.pairsOfSame left right i j change.left change.right
    let changed := (List.range both).flatMap fun k =>
      layout.pair left right (some (change.left + k)) '|' (some (change.right + k))
    let added := (List.range (change.inserted - both)).flatMap fun k =>
      layout.pair left right none '>' (some (change.right + both + k))
    let removed := (List.range (change.deleted - both)).flatMap fun k =>
      layout.pair left right (some (change.left + both + k)) '<' none
    (text ++ same ++ changed ++ added ++ removed, change.left + change.deleted,
      change.right + change.inserted)) (([] : List Char), 0, 0)
  text ++ layout.pairsOfSame left right i j left.lines.size right.lines.size

/-! ## Both files as one -/

def merged (layout : DiffLayout) (name : List Char) (left right : DiffSide)
    (changes : List Change) : List Char :=
  let line (side : DiffSide) (index : Nat) : List Char :=
    layout.lineText side index ++ (if isOpen side index then [] else ['\n'])
  let lines (side : DiffSide) (start count : Nat) : List Char :=
    (List.range count).flatMap fun k => line side (start + k)
  let close : List Char := "#endif /* ".toList ++ name ++ " */\n".toList
  let (text, next) := changes.foldl (fun (text, next) change =>
    let same := lines left next (change.left - next)
    let old := lines left change.left change.deleted
    let new := lines right change.right change.inserted
    let shown := match change.deleted, change.inserted with
      | _, 0 => "#ifndef ".toList ++ name ++ ['\n'] ++ old ++ "#endif /* ! ".toList ++ name ++
        " */\n".toList
      | 0, _ => "#ifdef ".toList ++ name ++ ['\n'] ++ new ++ close
      | _, _ => "#ifndef ".toList ++ name ++ ['\n'] ++ old ++ "#else /* ".toList ++ name ++
        " */\n".toList ++ new ++ close
    (text ++ same ++ shown, change.left + change.deleted)) (([] : List Char), 0)
  text ++ lines left next (left.lines.size - next)

def text (layout : DiffLayout) (left right : DiffSide) (changes : List Change) : List Char :=
  let hunks := (layout.hunks left right changes).filter (!layout.isTrivial left right ·)
  match layout.style with
  | .normal => hunks.flatMap (layout.normalHunk left right)
  | .script => hunks.reverse.flatMap (layout.scriptHunk right)
  | .forwardScript => hunks.flatMap (layout.forwardHunk right)
  | .counted => hunks.flatMap (layout.countedHunk right)
  | .sideBySide => layout.pairs left right changes
  | .merged name => layout.merged name left right changes
  | .unified _ =>
    if hunks = [] then []
    else "--- ".toList ++ left.title ++ "\n+++ ".toList ++ right.title ++ ['\n'] ++
      hunks.flatMap (layout.unifiedHunk left right)
  | .context _ =>
    if hunks = [] then []
    else "*** ".toList ++ left.title ++ "\n--- ".toList ++ right.title ++ ['\n'] ++
      hunks.flatMap (layout.contextHunk left right)

end DiffLayout

end HouseStyle.Shell
