import HouseStyle.Shell.Utility.Numbering

namespace HouseStyle.Shell

/-! ## Long lines -/

structure Folding where
  width : Nat := 80
  counted : Bool := false
  atBlanks : Bool := false

namespace Folding

def columnAfter (folding : Folding) (column : Nat) (c : Char) : Nat :=
  if folding.counted then column + 1
  else match c with
    | '\x08' => column - 1
    | '\r' => 0
    | '\t' => column + 8 - column % 8
    | _ => column + 1

/-- What is left of a line that is read so far, the last character first, when a character does not
fit behind it: the part to break off, and what goes to the next line. -/
def breakOff (folding : Folding) (line : List Char) : List Char × List Char :=
  let isBlank (c : Char) : Bool := c = ' ' || c = '\t'
  if folding.atBlanks && line.any isBlank then
    let kept := line.takeWhile (!isBlank ·)
    (line.drop kept.length, kept)
  else (line, [])

/-- Add a character to a line. Lines are broken off in at most so many steps. Gives the lines that
are broken off, the last one first, and the line with its column. -/
def add (folding : Folding) (c : Char) : Nat → List (List Char) → List Char → Nat →
    List (List Char) × List Char × Nat
  | 0, done, line, column => (done, c :: line, folding.columnAfter column c)
  | steps + 1, done, line, column =>
    let next := folding.columnAfter column c
    if next ≤ folding.width || line = [] then (done, c :: line, next)
    else
      let (broken, kept) := folding.breakOff line
      let column := kept.reverse.foldl folding.columnAfter 0
      folding.add c steps (('\n' :: broken) :: done) kept column

def text (folding : Folding) (text : List Char) : List Char :=
  let (done, line, _) := text.foldl (fun (done, line, column) c =>
    if c = '\n' then ((c :: line) :: done, ([] : List Char), 0)
    else folding.add c (line.length + 2) done line column) (([] : List (List Char)), [], 0)
  (line :: done).reverse.flatMap List.reverse

end Folding

/-! ## Tabs -/

structure TabStops where
  stops : List Nat := []
  multiples : Option Nat := none
  distance : Option Nat := none

namespace TabStops

def next? (tabs : TabStops) (column : Nat) : Option Nat :=
  let after (size start : Nat) : Nat := column + size - (column - start) % size
  match tabs.stops, tabs.multiples, tabs.distance with
  | [], none, none => some (after 8 0)
  | [], some size, _ | [], none, some size => some (after size 0)
  | [size], none, none => some (after size 0)
  | stops, multiples, distance =>
    match stops.find? (column < ·), multiples, distance with
    | some stop, _, _ => some stop
    | none, some size, _ => some (after size 0)
    | none, none, some size => some (after size (stops.getLastD 0))
    | none, none, none => none

end TabStops

structure Expanding where
  column : Nat := 0
  active : Bool := true
  written : List Char := []

def Expanding.add (tabs : TabStops) (everywhere : Bool) (state : Expanding) (c : Char) :
    Expanding :=
  if c = '\n' then { written := c :: state.written }
  else if !state.active then { state with written := c :: state.written }
  else
    let active := everywhere || c = ' ' || c = '\t'
    match c with
    | '\t' =>
      let next := (tabs.next? state.column).getD (state.column + 1)
      { column := next, active
        written := List.replicate (next - state.column) ' ' ++ state.written }
    | '\x08' => { column := state.column - 1, active, written := c :: state.written }
    | c => { column := state.column + 1, active, written := c :: state.written }

structure Contracting where
  column : Nat := 0
  active : Bool := true
  afterBlank : Bool := true
  single : Bool := false
  pending : List Char := []
  written : List Char := []

namespace Contracting

def settle (state : Contracting) : Contracting :=
  let blanks := if state.pending.length > 1 && state.single then
    state.pending.dropLast ++ ['\t'] else state.pending
  if state.pending = [] then state
  else { state with written := blanks ++ state.written, pending := [], single := false }

def write (everywhere : Bool) (c : Char) (isBlank : Bool) (state : Contracting) : Contracting :=
  let state := state.settle
  { state with
    afterBlank := isBlank
    active := state.active && (everywhere || isBlank)
    written := c :: state.written }

/-- Replace the blanks before a stop by a tab, and a blank before the stop before it by another
one. -/
def putTab (everywhere : Bool) (state : Contracting) : Contracting :=
  write everywhere '\t' true
    { state with pending := if state.single then ['\t'] else [] }

def add (tabs : TabStops) (everywhere : Bool) (state : Contracting) (c : Char) : Contracting :=
  if c = '\n' then
    if state.active then { written := '\n' :: state.settle.written }
    else { written := '\n' :: state.written }
  else if !state.active then { state with written := c :: state.written }
  else if c = ' ' || c = '\t' then
    match tabs.next? state.column with
    | none => write everywhere c true { state with active := false }
    | some next =>
      if c = '\t' then
        putTab everywhere { state with column := next }
      else
        let column := state.column + 1
        if state.afterBlank && column = next then putTab everywhere { state with column }
        else { state with
          column
          single := state.single || column = next
          pending := c :: state.pending
          afterBlank := true }
  else if c = '\x08' then write everywhere c false { state with column := state.column - 1 }
  else write everywhere c false { state with column := state.column + 1 }

end Contracting

namespace Exec

/-! ## Programs -/

/-- Words with digits in the place of letters of options: those that start with a dash and a digit
are arguments of an option. -/
def digitsAsOption (letter : Char) (words : List (List Char)) : List (List Char) :=
  let plain := words.takeWhile (· ≠ ['-', '-'])
  plain.map (fun word => match word with
    | '-' :: c :: rest => if c.isDigit then '-' :: letter :: c :: rest else word
    | word => word) ++ words.drop plain.length

def fold (words : List (List Char)) : Exec Nat :=
  let forms := OptionForm.named [('b', "bytes"), ('s', "spaces")] ++
    OptionForm.namedValued [('w', "width")]
  let takeWidth (options : List (Char × List Char)) : Exec (Except Nat Nat) :=
    (options.filter (·.1 = 'w')).foldlM (fun width (_, word) => do
      match width with
      | .error status => pure (.error status)
      | .ok _ => do
        match (← boundedNumber "invalid number of columns" 1 0xfffffffffffffff6 word) with
        | some width => pure (.ok width.toNat)
        | none => pure (.error 1)) (.ok 80)
  withOptions 1 .mixed forms (digitsAsOption 'w' words) takeWidth fun width arguments => do
    let folding : Folding :=
      { width, counted := arguments.has 'b', atBlanks := arguments.has 's' }
    eachContent arguments.operands fun _ content => put (folding.text content)

structure TabReader where
  stops : List Nat := []
  multiples : Option Nat := none
  distance : Option Nat := none
  digits : List Char := []
  mark : Option Char := none

namespace TabReader

def finish (reader : TabReader) : Except (List Char) TabReader :=
  let again (mark : Char) : Except (List Char) TabReader :=
    .error (['\'', mark] ++ "' specifier only allowed with the last value".toList)
  if reader.digits = [] then .ok reader
  else
    let digits := reader.digits.reverse
    let value := Text.digitsValue 10 digits
    if 0x10000000000000000 ≤ value then .error ("tab stop is too large ".toList ++ quoted digits)
    else match reader.mark with
      | none => .ok { reader with digits := [], stops := reader.stops ++ [value] }
      | some '/' =>
        if reader.multiples.isSome then again '/'
        else .ok { reader with digits := [], multiples := some value }
      | some mark =>
        if reader.distance.isSome then again mark
        else .ok { reader with digits := [], distance := some value }

def read : List Char → TabReader → Except (List Char) TabReader
  | [], reader => reader.finish
  | c :: rest, reader =>
    if c = ',' || c = ' ' || c = '\t' then do read rest (← reader.finish)
    else if c = '/' || c = '+' then
      if reader.digits ≠ [] then
        .error (['\'', c] ++ "' specifier not at start of number: ".toList ++ quoted (c :: rest))
      else read rest { reader with mark := some c }
    else if c.isDigit then read rest { reader with digits := c :: reader.digits }
    else .error ("tab size contains invalid character(s): ".toList ++ quoted (c :: rest))

def tabStops (reader : TabReader) : Except String TabStops :=
  let isAscending := (reader.stops.zip reader.stops.tail).all fun (left, right) => left < right
  if reader.stops.contains 0 then .error "tab size cannot be 0"
  else if !isAscending then .error "tab sizes must be ascending"
  else if reader.multiples.isSome && reader.distance.isSome then
    .error "'/' specifier is mutually exclusive with '+'"
  else
    let filled (size : Option Nat) : Option Nat := size.filter (0 < ·)
    .ok { stops := reader.stops
          multiples := filled reader.multiples
          distance := filled reader.distance }

end TabReader

def tabOptions (options : List (Char × List Char)) : Exec (Except Nat TabStops) := do
  let read : Except (List Char) TabReader :=
    (options.filter fun option => option.1 = 't' || option.1 = 'δ').foldlM
      (fun reader (_, word) => TabReader.read word { reader with mark := none }) {}
  let stops : Except (List Char) TabStops := match read with
    | .ok reader => reader.tabStops.mapError String.toList
    | .error message => .error message
  match stops with
  | .ok stops => pure (.ok stops)
  | .error message => do
    programError message
    pure (.error 1)

def throughFiles {σ : Type} (paths : List (List Char)) (step : σ → Char → σ)
    (take : σ → List Char × σ) (start : σ) : Exec (σ × Nat) :=
  (if paths = [] then [['-']] else paths).foldlM (fun (state, status) path => do
    match (← readPath path) with
    | .error reason => do
      pathError path reason
      pure (state, 1)
    | .ok content => do
      let (written, state) := take (content.foldl step state)
      put written.reverse
      pure (state, status)) (start, 0)

def expand (words : List (List Char)) : Exec Nat :=
  let forms := OptionForm.named [('i', "initial")] ++ OptionForm.namedValued [('t', "tabs")] ++
    OptionForm.valued "δ"
  withOptions 1 .mixed forms (digitsAsOption 'δ' words) tabOptions fun tabs arguments => do
    let (_, status) ← throughFiles arguments.operands
      (Expanding.add tabs (!arguments.has 'i'))
      (fun state => (state.written, { state with written := [] })) {}
    pure status

def unexpand (words : List (List Char)) : Exec Nat :=
  let forms := OptionForm.named [('a', "all"), ('φ', "first-only")] ++
    OptionForm.namedValued [('t', "tabs")] ++ OptionForm.valued "δ"
  withOptions 1 .mixed forms (digitsAsOption 'δ' words) tabOptions fun tabs arguments => do
    let everywhere := (arguments.has 'a' || arguments.has 't') && !arguments.has 'φ'
    let (state, status) ← throughFiles arguments.operands (Contracting.add tabs everywhere)
      (fun state => (state.written, { state with written := [] })) {}
    put state.settle.written.reverse
    pure status

end Exec

end HouseStyle.Shell
