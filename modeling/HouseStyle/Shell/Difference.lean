/-!
# Differences of two sequences

Two sequences of lines are compared, of which each line is known by the number of its class. The
result tells which lines of each sequence are left out, so that the others are the same in both. It
is found by cutting the sequences at a place in the middle of a shortest way from one to the other,
again and again. Before that, lines are set aside that the other sequence does not have, and then the
lines that are left out are moved so that they stand together.
-/

namespace HouseStyle.Shell

/-- A place where two sequences differ: from these lines on, so many are left out, and so many are
put in. -/
structure Change where
  left : Nat
  right : Nat
  deleted : Nat
  inserted : Nat
  deriving DecidableEq, Repr

namespace Difference

/-! ## Shortest ways

A way leads from the start of both sequences to their ends. It goes along a diagonal where the
sequences agree, and to the next diagonal where a line is left out. -/

structure Region where
  xs : Array Nat
  ys : Array Nat
  xStart : Nat
  xEnd : Nat
  yStart : Nat
  yEnd : Nat

namespace Region

def same (region : Region) (x y : Nat) : Bool :=
  match region.xs[x]?, region.ys[y]? with
  | some left, some right => left = right
  | _, _ => false

def slideOn (region : Region) : Nat → Nat → Nat → Nat
  | 0, x, _ => x
  | steps + 1, x, y =>
    if x < region.xEnd && y < region.yEnd && region.same x y then
      region.slideOn steps (x + 1) (y + 1)
    else x

def slideBack (region : Region) : Nat → Nat → Nat → Nat
  | 0, x, _ => x
  | steps + 1, x, y =>
    if region.xStart < x && region.yStart < y && region.same (x - 1) (y - 1) then
      region.slideBack steps (x - 1) (y - 1)
    else x

def size (region : Region) : Nat :=
  region.xEnd - region.xStart + (region.yEnd - region.yStart)

def afterStart (region : Region) : Region :=
  let x := region.slideOn region.size region.xStart region.yStart
  { region with xStart := x, yStart := region.yStart + (x - region.xStart) }

def beforeEnd (region : Region) : Region :=
  let x := region.slideBack region.size region.xEnd region.yEnd
  { region with xEnd := x, yEnd := region.yEnd - (region.xEnd - x) }

end Region

structure Front where
  low : Int
  high : Int
  reached : Array Int

namespace Front

def index (region : Region) (diagonal : Int) : Nat :=
  (diagonal + region.ys.size + 2).toNat

def place (front : Front) (region : Region) (diagonal : Int) : Int :=
  front.reached.getD (index region diagonal) 0

def put (front : Front) (region : Region) (diagonal x : Int) : Front :=
  { front with reached := front.reached.setIfInBounds (index region diagonal) x }

def start (region : Region) (diagonal x : Int) : Front :=
  put { low := diagonal, high := diagonal
        reached := Array.replicate (region.xs.size + region.ys.size + 5) 0 } region diagonal x

/-- Take in the diagonals on both sides, or leave out those that lead out of the region. `nowhere` is
a place that no way reaches. -/
def widen (front : Front) (region : Region) (nowhere : Int) : Front :=
  let least : Int := (region.xStart : Int) - region.yEnd
  let greatest : Int := (region.xEnd : Int) - region.yStart
  let front := if least < front.low then
      put { front with low := front.low - 1 } region (front.low - 2) nowhere
    else { front with low := front.low + 1 }
  if front.high < greatest then
    put { front with high := front.high + 1 } region (front.high + 2) nowhere
  else { front with high := front.high - 1 }

end Front

/-- Go forward on each second diagonal, from one down to the lowest of the front. Gives the place
where a way meets one that comes back. -/
def forward (region : Region) (odd : Bool) (back : Front) :
    Nat → Int → Front → Front × Option (Nat × Nat)
  | 0, _, front => (front, none)
  | steps + 1, diagonal, front =>
    if diagonal < front.low then (front, none)
    else
      let below := front.place region (diagonal - 1)
      let above := front.place region (diagonal + 1)
      let start := if below < above then above else below + 1
      let x := region.slideOn region.size start.toNat (start - diagonal).toNat
      let front := front.put region diagonal x
      if odd && back.low ≤ diagonal && diagonal ≤ back.high && back.place region diagonal ≤ x then
        (front, some (x, ((x : Int) - diagonal).toNat))
      else forward region odd back steps (diagonal - 2) front

def backward (region : Region) (odd : Bool) (ahead : Front) :
    Nat → Int → Front → Front × Option (Nat × Nat)
  | 0, _, front => (front, none)
  | steps + 1, diagonal, front =>
    if diagonal < front.low then (front, none)
    else
      let below := front.place region (diagonal - 1)
      let above := front.place region (diagonal + 1)
      let start := if below < above then below else above - 1
      let x := region.slideBack region.size start.toNat (start - diagonal).toNat
      let front := front.put region diagonal x
      if !odd && ahead.low ≤ diagonal && diagonal ≤ ahead.high && x ≤ ahead.place region diagonal then
        (front, some (x, ((x : Int) - diagonal).toNat))
      else backward region odd ahead steps (diagonal - 2) front

def meet (region : Region) (odd : Bool) : Nat → Front → Front → Option (Nat × Nat)
  | 0, _, _ => none
  | rounds + 1, ahead, back =>
    let ahead := ahead.widen region (-1)
    match forward region odd back (region.size + 3) ahead.high ahead with
    | (_, some place) => some place
    | (ahead, none) =>
      let back := back.widen region 0x7fffffffffffffff
      match backward region odd ahead (region.size + 3) back.high back with
      | (_, some place) => some place
      | (back, none) => meet region odd rounds ahead back

def middle (region : Region) : Option (Nat × Nat) :=
  let startDiagonal : Int := (region.xStart : Int) - region.yStart
  let endDiagonal : Int := (region.xEnd : Int) - region.yEnd
  meet region ((startDiagonal - endDiagonal) % 2 ≠ 0) (region.size + 2)
    (Front.start region startDiagonal region.xStart) (Front.start region endDiagonal region.xEnd)

def numbersFrom (start stop : Nat) : List Nat :=
  (List.range (stop - start)).map (start + ·)

def leftOut : Nat → Region → List Nat × List Nat
  | 0, region => (numbersFrom region.xStart region.xEnd, numbersFrom region.yStart region.yEnd)
  | depth + 1, region =>
    let region := region.afterStart.beforeEnd
    if region.xStart = region.xEnd || region.yStart = region.yEnd then
      (numbersFrom region.xStart region.xEnd, numbersFrom region.yStart region.yEnd)
    else match middle region with
      | none => (numbersFrom region.xStart region.xEnd, numbersFrom region.yStart region.yEnd)
      | some (x, y) =>
        let (firstXs, firstYs) := leftOut depth { region with xEnd := x, yEnd := y }
        let (lastXs, lastYs) := leftOut depth { region with xStart := x, yStart := y }
        (firstXs ++ lastXs, firstYs ++ lastYs)

/-! ## Lines without a match -/

inductive Weight where
  | kept
  | dropped
  | doubtful
  deriving DecidableEq, Repr

/-- How often a line can be in the other sequence, of which this is the length, without becoming
doubtful. -/
def manyOf (length : Nat) : Nat :=
  go 64 (length / 64) 5
where
  go : Nat → Nat → Nat → Nat
    | 0, _, many => many
    | steps + 1, rest, many => if rest / 4 = 0 then many else go steps (rest / 4) (many * 2)

def weights (lines others : List Nat) : List Weight :=
  let many := manyOf lines.length
  lines.map fun line =>
    let count := others.count line
    if count = 0 then .dropped else if many < count then .doubtful else .kept

/-- The number of doubtful lines in a row that make these stay: about the root of a quarter of the
length of a run, plus one. -/
def fewest (length : Nat) : Nat :=
  go 64 (length / 4) 1 + 1
where
  go : Nat → Nat → Nat → Nat
    | 0, _, fewest => fewest
    | steps + 1, rest, fewest => if rest / 4 = 0 then fewest else go steps (rest / 4) (fewest * 2)

def keepRows (least : Nat) (run : List Weight) : List Weight :=
  (run.splitBy fun left right => (left = .doubtful) = (right = .doubtful)).flatMap fun row =>
    if row.head? = some .doubtful && least ≤ row.length then row.map fun _ => .kept else row

/-- Keep doubtful lines at the start of a run: up to three others in a row, or up to one that is not
among the first eight lines. -/
def keepStart : Nat → Nat → List Weight → List Weight
  | _, _, [] => []
  | passed, inRow, weight :: rest =>
    if 8 ≤ passed && weight = .dropped then weight :: rest
    else match weight with
      | .doubtful | .kept => .kept :: keepStart (passed + 1) 0 rest
      | .dropped =>
        if inRow + 1 = 3 then weight :: rest
        else weight :: keepStart (passed + 1) (inRow + 1) rest

def settleRun (run : List Weight) : List Weight :=
  let doubtful := run.count .doubtful
  if run.length < doubtful * 4 then
    run.map fun weight => if weight = .doubtful then .kept else weight
  else
    let rows := keepRows (fewest run.length) run
    (keepStart 0 0 (keepStart 0 0 rows).reverse).reverse

def settleWeights : Nat → List Weight → List Weight
  | 0, _ => []
  | _ + 1, [] => []
  | steps + 1, .dropped :: rest =>
    let all := Weight.dropped :: rest
    let whole := all.takeWhile (· ≠ .kept)
    let ending := whole.reverse.takeWhile (· = .doubtful)
    let run := whole.take (whole.length - ending.length)
    settleRun run ++ ending.map (fun _ => .kept) ++ settleWeights steps (all.drop whole.length)
  | steps + 1, _ :: rest => .kept :: settleWeights steps rest

def drops (lines others : List Nat) : List Bool :=
  (settleWeights (lines.length + 1) (weights lines others)).map (· = .dropped)

/-! ## Changes that stand together -/

abbrev Marks := Array Bool

def Marks.has (marks : Marks) (line : Int) : Bool :=
  marks.getD (line + 1).toNat false

def Marks.put (marks : Marks) (line : Int) (mark : Bool) : Marks :=
  marks.setIfInBounds (line + 1).toNat mark

structure Run where
  marks : Marks
  start : Int
  stop : Int
  other : Int
  beside : Option Int := none

def pastMarks (marks : Marks) : Nat → Int → Int
  | 0, line => line
  | steps + 1, line => if marks.has line then pastMarks marks steps (line + 1) else line

def beforeMarks (marks : Marks) : Nat → Int → Int
  | 0, line => line
  | steps + 1, line => if marks.has line then beforeMarks marks steps (line - 1) else line

def moveBack (lines : Array Nat) (others : Marks) (size : Nat) : Nat → Run → Run
  | 0, run => run
  | steps + 1, run =>
    if 0 < run.start && lines[(run.start - 1).toNat]? = lines[(run.stop - 1).toNat]? then
      let marks := (run.marks.put (run.start - 1) true).put (run.stop - 1) false
      let start := beforeMarks marks size (run.start - 2) + 1
      let other := beforeMarks others size (run.other - 1)
      moveBack lines others size steps { run with marks, start, stop := run.stop - 1, other }
    else run

def moveOn (lines : Array Nat) (others : Marks) (size : Nat) : Nat → Run → Run
  | 0, run => run
  | steps + 1, run =>
    if run.stop < lines.size && lines[run.start.toNat]? = lines[run.stop.toNat]? then
      let marks := (run.marks.put run.start false).put run.stop true
      let stop := pastMarks marks size (run.stop + 1)
      let other := pastMarks others size (run.other + 1)
      let beside := if other = run.other + 1 then run.beside else some stop
      moveOn lines others size steps { marks, start := run.start + 1, stop, other, beside }
    else run

def moveRun (lines : Array Nat) (others : Marks) (size : Nat) : Nat → Run → Run
  | 0, run => run
  | steps + 1, run =>
    let length := run.stop - run.start
    let run := moveBack lines others size size run
    let run := moveOn lines others size size
      { run with beside := if others.has (run.other - 1) then some run.stop else none }
    if run.stop - run.start = length then run else moveRun lines others size steps run

def moveBeside (others : Marks) (size : Nat) : Nat → Run → Run
  | 0, run => run
  | steps + 1, run =>
    match run.beside with
    | some beside =>
      if beside < run.stop then
        moveBeside others size steps { run with
          marks := (run.marks.put (run.start - 1) true).put (run.stop - 1) false
          start := run.start - 1
          stop := run.stop - 1
          other := beforeMarks others size (run.other - 1) }
      else run
    | none => run

def moveRuns (lines : Array Nat) (others : Marks) (size : Nat) : Nat → Marks → Int → Int → Marks
  | 0, marks, _, _ => marks
  | steps + 1, marks, line, other =>
    if (lines.size : Int) ≤ line then marks
    else if !marks.has line then
      moveRuns lines others size steps marks (line + 1) (pastMarks others size other + 1)
    else
      let stop := pastMarks marks size line
      let run := moveRun lines others size size
        { marks, start := line, stop, other := pastMarks others size other }
      let run := moveBeside others size size run
      moveRuns lines others size steps run.marks run.stop run.other

/-! ## The changes -/

def changesOf (left right : Marks) (size : Nat) : Nat → Int → Int → List Change → List Change
  | 0, _, _, changes => changes
  | steps + 1, i, j, changes =>
    if i < 0 && j < 0 then changes
    else
      let i' := beforeMarks left size (i - 1) + 1
      let j' := beforeMarks right size (j - 1) + 1
      let changes := if i' = i && j' = j then changes
        else { left := i'.toNat, right := j'.toNat, deleted := (i - i').toNat
               inserted := (j - j').toNat } :: changes
      changesOf left right size steps (i' - 1) (j' - 1) changes

def marksOf (size : Nat) (lines : List Nat) : Marks :=
  lines.foldl (fun (marks : Marks) (line : Nat) => marks.put line true)
    (Array.replicate (size + 2) false)

def keptLines (lines : List Nat) (drops : List Bool) : List (Nat × Nat) :=
  ((lines.zipIdx.zip drops).filter (!·.2)).map (·.1)

/-- The places where two sequences differ. If they are to be found in any case, no lines are set
aside. -/
def changes (thorough : Bool) (xs ys : List Nat) : List Change :=
  let xDrops := if thorough then xs.map fun _ => false else drops xs ys
  let yDrops := if thorough then ys.map fun _ => false else drops ys xs
  let xKept := keptLines xs xDrops
  let yKept := keptLines ys yDrops
  let region : Region :=
    { xs := (xKept.map (·.1)).toArray, ys := (yKept.map (·.1)).toArray
      xStart := 0, xEnd := xKept.length, yStart := 0, yEnd := yKept.length }
  let (xOut, yOut) := leftOut (region.size + 1) region
  let places (kept : List (Nat × Nat)) (found : List Nat) (drops : List Bool) : List Nat :=
    let all := (kept.map (·.2)).toArray
    found.filterMap (all[·]?) ++ (drops.zipIdx.filter (·.1)).map (·.2)
  let size := xs.length + ys.length + 3
  let left := marksOf xs.length (places xKept xOut xDrops)
  let right := marksOf ys.length (places yKept yOut yDrops)
  let left := moveRuns xs.toArray right size size left 0 0
  let right := moveRuns ys.toArray left size size right 0 0
  changesOf left right size size xs.length ys.length []

end Difference

end HouseStyle.Shell
