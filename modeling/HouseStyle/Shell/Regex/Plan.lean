import HouseStyle.Shell.Regex.Basic

/-!
# Plans for matching

A plan is an expression as a list of numbered steps: take a character, go on at one of two steps, and
the like. A text fits if there is a way through the steps that takes its characters one by one.
-/

namespace HouseStyle.Shell.Regex

inductive Step where
  | take (set : CharSet)
  | fork (first second : Nat)
  | jump (target : Nat)
  | openGroup (number : Nat)
  | closeGroup (number : Nat)
  | check (edge : Edge)
  | recall (number : Nat)
  | look (back negated : Bool) (after : Nat)
  | restart
  | accept

structure Plan where
  steps : Array Step
  inLines : Bool := false
  folded : Bool := false
  first : Bool := false
  hasMemory : Bool := false
  groups : Nat := 0

def forkOf (lazy : Bool) (body after : Nat) : Step :=
  if lazy then .fork after body else .fork body after

def steps (folded : Bool) : Regex → Nat → List Step
  | empty, _ => []
  | one set, _ => [.take (if folded then set.folded else set)]
  | both first second, base =>
    let start := steps folded first base
    start ++ steps folded second (base + start.length)
  | either first second, base =>
    let left := steps folded first (base + 1)
    let right := steps folded second (base + left.length + 2)
    .fork (base + 1) (base + left.length + 2) :: left ++
      .jump (base + left.length + right.length + 2) :: right
  | bounded body least most lazy, base =>
    let size := (steps folded body 0).length
    let required := (List.range least).flatMap fun index => steps folded body (base + index * size)
    let start := base + least * size
    match most with
    | none =>
      required ++ forkOf lazy (start + 1) (start + size + 2) :: steps folded body (start + 1) ++
        [.jump start]
    | some most =>
      let stop := start + (most - least) * (size + 1)
      required ++ (List.range (most - least)).flatMap fun index =>
        let here := start + index * (size + 1)
        forkOf lazy (here + 1) stop :: steps folded body (here + 1)
  | group number body, base => .openGroup number :: steps folded body (base + 1) ++
    [.closeGroup number]
  | again number, _ => [.recall number]
  | edge kind, _ => [.check kind]
  | look back negated body, base =>
    let inner := steps folded body (base + 1)
    .look back negated (base + inner.length + 2) :: inner ++ [.accept]
  | restart, _ => [.restart]

def plan (regex : Regex) (folded inLines first : Bool) : Plan :=
  let all : List Step := steps folded regex 0 ++ [Step.accept]
  { steps := all.toArray
    inLines, folded, first
    hasMemory := regex.hasMemory
    groups := regex.groupCount }

namespace Plan

/-! ## The longest text that fits -/

/-- The steps that take a character and can be reached from some steps without taking any, and
whether the end can be reached. -/
def spread (plan : Plan) (holds : Edge → Bool) :
    Nat → List Nat → Nat → List Nat → Bool → List Nat × Bool
  | 0, _, _, takes, accepts => (takes, accepts)
  | _ + 1, [], _, takes, accepts => (takes, accepts)
  | fuel + 1, number :: others, seen, takes, accepts =>
    if seen.testBit number then plan.spread holds fuel others seen takes accepts
    else
      let seen := seen ||| (1 <<< number)
      match plan.steps[number]? with
      | some (.take _) => plan.spread holds fuel others seen (number :: takes) accepts
      | some (.fork first second) =>
        plan.spread holds fuel (first :: second :: others) seen takes accepts
      | some (.jump target) => plan.spread holds fuel (target :: others) seen takes accepts
      | some (.openGroup _) | some (.closeGroup _) | some .restart =>
        plan.spread holds fuel ((number + 1) :: others) seen takes accepts
      | some (.check kind) =>
        let next := if holds kind then (number + 1) :: others else others
        plan.spread holds fuel next seen takes accepts
      | some .accept => plan.spread holds fuel others seen takes true
      | some (.recall _) | some (.look _ _ _) | none =>
        plan.spread holds fuel others seen takes accepts

def advance (plan : Plan) (c : Char) (takes : List Nat) : List Nat :=
  takes.filterMap fun number =>
    match plan.steps[number]? with
    | some (Step.take set) => if set.holds c then some (number + 1) else none
    | _ => none

def reach (plan : Plan) (before after : Option Char) (entries : List Nat) : List Nat × Bool :=
  plan.spread (Edge.holds plan.inLines before after) (3 * plan.steps.size + entries.length + 3)
    entries 0 [] false

/-- The length of the longest text that fits from some steps on, if so many characters were taken
and a text of some length fits already. The end must be allowed before the character there. -/
def longest (plan : Plan) (allowed : Option Char → Bool) :
    List Char → Option Char → List Nat → Nat → Option Nat → Option Nat
  | [], before, entries, length, best =>
    let (_, accepts) := plan.reach before none entries
    if accepts && allowed none then some length else best
  | c :: rest, before, entries, length, best =>
    let (takes, accepts) := plan.reach before (some c) entries
    let best := if accepts && allowed (some c) then some length else best
    let next := plan.advance c takes
    if next.isEmpty then best else plan.longest allowed rest (some c) next (length + 1) best

/-! ## Ways through the steps -/

abbrev Groups := List (Nat × List Char)

structure OpenGroup where
  number : Nat
  offset : Nat
  rest : List Char
  groups : Groups

structure Way where
  step : Nat := 0
  offset : Nat := 0
  before : List Char
  rest : List Char
  opened : List OpenGroup := []
  groups : Groups := []
  skipped : Nat := 0

namespace Way

def takeText (folded : Bool) : List Char → Way → Option Way
  | [], way => some way
  | c :: text, way =>
    match way.rest with
    | d :: rest =>
      if c = d || folded && c.toLower = d.toLower then
        takeText folded text
          { way with before := d :: way.before, rest, offset := way.offset + 1 }
      else none
    | [] => none

def close (number : Nat) (way : Way) : Way :=
  match way.opened with
  | [] => way
  | opened :: others =>
    if opened.offset = way.offset && (opened.groups.lookup number).isSome then
      { way with opened := others, groups := opened.groups }
    else
      let text := opened.rest.take (way.offset - opened.offset)
      { way with opened := others, groups := (number, text) :: way.groups.filter (·.1 ≠ number) }

end Way

inductive Goal where
  | first
  | exactly (length : Nat)
  | longest
  deriving DecidableEq, Repr

def waysBack (step : Nat) : List Char → List Char → List Way
  | [], rest => [{ step, before := [], rest }]
  | c :: before, rest =>
    { step, before := c :: before, rest } :: waysBack step before (c :: rest)

def Way.after (plan : Plan) (way : Way) (step : Step) : List Way :=
  let next := { way with step := way.step + 1 }
  match step with
  | .take set =>
    match way.rest with
    | c :: rest =>
      if set.holds c then
        [{ next with before := c :: way.before, rest, offset := way.offset + 1 }]
      else []
    | [] => []
  | .fork first second => [{ way with step := first }, { way with step := second }]
  | .jump target => [{ way with step := target }]
  | .openGroup number =>
    let opened := { number, offset := way.offset, rest := way.rest, groups := way.groups }
    [{ next with opened := opened :: way.opened }]
  | .closeGroup number => [next.close number]
  | .check kind =>
    if kind.holds plan.inLines way.before.head? way.rest.head? then [next] else []
  | .recall number =>
    match way.groups.lookup number with
    | some text => (next.takeText plan.folded text).toList
    | none => []
  | .restart => [{ next with skipped := way.offset }]
  | .look _ _ _ | .accept => []

/-- Follow ways, the first of them first, and give the one that is looked for. If the way here does
not matter, no step is tried twice at the same character. -/
def follow (plan : Plan) (goal : Goal) (allowed : Option Char → Bool) (marking : Bool) :
    Nat → List Way → Array Nat → Option Way → Option Way
  | 0, _, _, best => best
  | _ + 1, [], _, best => best
  | fuel + 1, way :: others, marks, best =>
    let mark := marks[way.offset]?.getD 0
    if marking && mark.testBit way.step then
      plan.follow goal allowed marking fuel others marks best
    else
      let marks := if marking then marks.setIfInBounds way.offset (mark ||| (1 <<< way.step))
        else marks
      match plan.steps[way.step]? with
      | none => plan.follow goal allowed marking fuel others marks best
      | some .accept =>
        let isGoal := match goal with
          | .first => allowed way.rest.head?
          | .exactly length => way.offset = length
          | .longest => false
        if isGoal then some way
        else
          let isBetter := goal = .longest && allowed way.rest.head? &&
            best.all (·.offset < way.offset)
          plan.follow goal allowed marking fuel others marks (if isBetter then some way else best)
      | some (.look back negated after) =>
        let start := way.step + 1
        let starts := if back then waysBack start way.before way.rest
          else [{ step := start, before := way.before, rest := way.rest }]
        let fits := starts.zipIdx.any fun (start, distance) =>
          let goal := if back then .exactly distance else .first
          (plan.follow goal (fun _ => true) false fuel [start] #[] none).isSome
        let ways := if fits != negated then { way with step := after } :: others else others
        plan.follow goal allowed marking fuel ways marks best
      | some step =>
        plan.follow goal allowed marking fuel (way.after plan step ++ others) marks best

def maxEffort : Nat := 300000

def wayAt (plan : Plan) (goal : Goal) (allowed : Option Char → Bool) (before rest : List Char) :
    Option Way :=
  let places := rest.length + 1
  let marking := !plan.hasMemory
  let marks := if marking then Array.replicate places 0 else #[]
  let effort := if marking then 3 * plan.steps.size * places + 3 else maxEffort
  plan.follow goal allowed marking effort [{ before, rest }] marks none

/-! ## Finding -/

/-- A text that fits: what stands before it, with the last character first, and behind it, and what
the groups stand for. -/
structure Found where
  before : List Char
  text : List Char
  rest : List Char
  groups : Groups := []

def foundOf (before rest : List Char) (way : Way) : Found :=
  { before := (rest.take way.skipped).reverse ++ before
    text := (rest.take way.offset).drop way.skipped
    rest := way.rest
    groups := way.groups }

def at? (plan : Plan) (needsGroups : Bool) (allowed : Option Char → Bool)
    (before rest : List Char) : Option Found :=
  if plan.hasMemory || plan.first then
    (plan.wayAt (if plan.first then .first else .longest) allowed before rest).map
      (foundOf before rest)
  else match plan.longest allowed rest before.head? [0] 0 none with
    | none => none
    | some length =>
      let plain : Found := { before, text := rest.take length, rest := rest.drop length }
      if needsGroups && plan.groups > 0 then
        some ((plan.wayAt (.exactly length) allowed before rest).elim plain (foundOf before rest))
      else some plain

/-- The first place where something fits. Which starts and ends are allowed depends on the
characters around them. -/
def findFrom (plan : Plan) (needsGroups : Bool) (starts : Option Char → Bool)
    (ends : Option Char → Bool) : List Char → List Char → Option Found
  | [], before => if starts before.head? then plan.at? needsGroups ends before [] else none
  | c :: rest, before =>
    let here := if starts before.head? then plan.at? needsGroups ends before (c :: rest) else none
    match here with
    | some found => some found
    | none => plan.findFrom needsGroups starts ends rest (c :: before)

def find? (plan : Plan) (before rest : List Char) : Option Found :=
  plan.findFrom true (fun _ => true) (fun _ => true) rest before

def isIn (plan : Plan) (text : List Char) : Bool :=
  (plan.findFrom false (fun _ => true) (fun _ => true) text []).isSome

end Plan

end HouseStyle.Shell.Regex
