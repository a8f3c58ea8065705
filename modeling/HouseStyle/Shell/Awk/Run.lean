import HouseStyle.Shell.Awk.Reading
import HouseStyle.Shell.Awk.Scanner
import HouseStyle.Shell.DateFormat

namespace HouseStyle.Shell.Awk

def remainder (left right : Float) : Float :=
  let (negative, size) := bitsOf left
  let (_, divisor) := bitsOf right
  if Binary64.infinity ≤ size || Binary64.infinity < divisor || divisor = 0 then 0 / (0 : Float)
  else if divisor = Binary64.infinity then left
  else
    let a := Decimal.Quotient.ofBits size
    let b := Decimal.Quotient.ofBits divisor
    let rest := (a.numerator * b.denominator) % (b.numerator * a.denominator)
    let scale := a.denominator * b.denominator
    let common := Nat.gcd rest scale
    let value := Float.ofNat (rest / common) / Float.ofNat (scale / common)
    if negative then -value else value

def Calculation.apply (calculation : Calculation) (left right : Float) : Float :=
  match calculation with
  | .add => left + right
  | .subtract => left - right
  | .multiply => left * right
  | .divide => left / right
  | .modulo => remainder left right
  | .power => Float.pow left right

def Relation.holds (relation : Relation) (order : Ordering) : Bool :=
  match relation with
  | .equal => order = .eq
  | .different => order ≠ .eq
  | .less => order = .lt
  | .atMost => order ≠ .gt
  | .greater => order = .gt
  | .atLeast => order ≠ .lt

def rounded (value : Float) : Int :=
  let low := truncated value.floor
  let rest := value - value.floor
  if rest < 0.5 then low
  else if 0.5 < rest then low + 1
  else if low % 2 = 0 then low else low + 1

def partOf (text : List Char) (start : Float) (length : Option Float) : List Char :=
  let first := rounded start
  let size : Int := text.length
  let stop := match length with
    | some length => if length.isNaN then first else rounded (start + length)
    | none => size + 1
  let first := if first < 1 then 1 else first
  let stop := if size + 1 < stop then size + 1 else stop
  if stop ≤ first then [] else (text.drop (first - 1).toNat).take (stop - first).toNat

def dateSeconds? (text : List Char) : Option Int :=
  let numbers := (Separator.blanks.parts text).map fun word => truncated (numberOf word)
  match numbers with
  | year :: month :: day :: hour :: minute :: second :: _ =>
    let months := year * 12 + (month - 1)
    let days := Calendar.daysBefore (months / 12) ((months % 12).toNat + 1) 1 + (day - 1)
    some (days * 86400 + hour * 3600 + minute * 60 + second)
  | _ => none

inductive Target where
  | name (name : String)
  | element (table : Nat) (key : Key)
  | field (index : Nat)

namespace Scan

def changeTable (number : Nat) (change : Table → Table) : Scan Unit :=
  modify fun scanner => { scanner with tables := scanner.tables.modify number change }

def element (number : Nat) (key : Key) : Scan Value := do
  let value := (← table number).value key
  changeTable number fun table => table.make key
  pure value

def targetValue : Target → Scan Value
  | .name name => nameValue name
  | .element table key => element table key
  | .field index => field index

def assign (target : Target) (value : Value) : Scan Unit :=
  match target with
  | .name name => assignName name value
  | .element table key => changeTable table fun table => table.set key value
  | .field index => setField index value

def compare (left right : Value) : Scan Ordering := do
  if left.isNumeric && right.isNumeric then
    let a := left.toNumber
    let b := right.toNumber
    pure (if a < b then .lt else if b < a then .gt else .eq)
  else do
    pure (compareTexts (← textOf left) (← textOf right))

def isTable (name : String) : Scan Bool := do
  let scanner ← get
  match scanner.frame.lookup name with
  | some (.table _) => pure true
  | some (.scalar _) => pure false
  | none => pure (scanner.names.contains name)

def setParts (table : Nat) (parts : List (List Char)) : Scan Value := do
  setTable table (parts.zipIdx.foldl (fun table (part, index) =>
    table.set (.whole (index + 1)) (.input part)) {})
  pure (.ofNat parts.length)

def formatted (name : String) (values : List Value) : Scan (List Char × Bool) := do
  match values with
  | [] => pure ([], true)
  | format :: values => do
    let form ← textOf format
    let numbers ← globalText "CONVFMT"
    let (text, fault) := Format.text (numberText numbers) form values
    match fault with
    | none => pure (text, true)
    | some fault => do
      if name = "printf" then emitOutput text
      failRunning (fault.message name form)

def setFound (start : Nat) (length : Float) : Scan Value := do
  setGlobal "RSTART" (.ofNat start)
  setGlobal "RLENGTH" (.number length)
  pure (.ofNat start)

def now : Scan Int := do
  ofExec do pure ((← get).now / 1000000)

def seedRandom (seed : Value) : Scan Value := do
  let old := (← get).seed
  let number := ((truncated seed.toNumber) % 0x100000000).toNat
  modify fun scanner => { scanner with seed, random := Random.start number }
  pure old

def drawRandom : Scan Value := do
  if (← get).random.isEmpty then do
    let _ ← seedRandom (.number (Float.ofInt (← now)))
  let (value, random) := (← get).random.draw
  modify fun scanner => { scanner with random }
  pure (.number value)

def flushName (name : List Char) : Scan Value := do
  match (← get).writers.find? (·.name = name) with
  | some writer => do
    flushBut 0 writer
    pure (.number 0)
  | none => pure (.number (-1))

def plainBuiltin (launch : Exec.Launch) (builtin : Builtin) (values : List Value) :
    Scan Value := do
  let number (index : Nat) : Float := ((values[index]?).map Value.toNumber).getD 0
  let first := values.headD .unset
  match builtin with
  | .length => do
    match values with
    | [] => do pure (.ofNat (← wholeRecord).length)
    | value :: _ => do pure (.ofNat (← textOf value).length)
  | .substr => do
    let text ← textOf first
    let length := if values.length < 3 then none else some (number 2)
    pure (.text (partOf text (number 1) length))
  | .index => do
    let text ← textOf first
    let wanted ← textOf ((values[1]?).getD .unset)
    pure (.ofNat (indexOf wanted 1 text))
  | .sprintf => do pure (.text (← formatted "sprintf" values).1)
  | .sin => pure (.number (number 0).sin)
  | .cos => pure (.number (number 0).cos)
  | .atan2 => pure (.number (Float.atan2 (number 0) (number 1)))
  | .exp => pure (.number (number 0).exp)
  | .log => pure (.number (number 0).log)
  | .sqrt => pure (.number (number 0).sqrt)
  | .int =>
    let value := number 0
    pure (.number (if value < 0 then value.ceil else value.floor))
  | .rand => drawRandom
  | .srand => do
    match values with
    | [] => do seedRandom (.number (Float.ofInt (← now)))
    | value :: _ => seedRandom value
  | .tolower => do pure (.text ((← textOf first).map Char.toLower))
  | .toupper => do pure (.text ((← textOf first).map Char.toUpper))
  | .system => do
    let command ← textOf first
    flush
    let status ← ofExec (runCommand launch "sh".toList command)
    pure (.ofNat status)
  | .close => do
    let status ← close launch (← textOf first)
    pure (.number (Float.ofInt status))
  | .fflush => do
    match values with
    | [] => flushName "/dev/stdout".toList
    | value :: _ => do flushName (← textOf value)
  | .systime => do pure (.number (Float.ofInt (← now)))
  | .strftime => do
    let format ← if values.isEmpty then pure "%c".toList else textOf first
    let seconds ← if values.length < 2 then now else pure (truncated (number 1))
    pure (.text (DateFormat.format (seconds * 1000000) format))
  | .mktime => do
    match dateSeconds? (← textOf first) with
    | some seconds => pure (.number (Float.ofInt seconds))
    | none => pure (.number (-1))
  | .split | .sub | .gsub | .matching => pure .unset

def mostCalls : Nat := 1000

mutual

def eval (launch : Exec.Launch) : Nat → Expr → Scan Value
  | 0, _ => ofExec Exec.sleepForever
  | fuel + 1, expr => do
    match expr with
    | .number value => pure (.number value)
    | .text text => pure (.text text)
    | .regex source => do
      let plan ← planFor source
      pure (.ofBool (plan.isIn (← wholeRecord)))
    | .name name => nameValue name
    | .element _ _ | .field _ => do targetValue (← target launch fuel expr)
    | .assign goal calculation value => do
      let place ← target launch fuel goal
      let value ← eval launch fuel value
      let value ← match calculation with
        | none => pure value
        | some calculation => do
          let old ← targetValue place
          pure (.number (calculation.apply old.toNumber value.toNumber))
      assign place value
      pure value
    | .step goal up before => do
      let place ← target launch fuel goal
      let old := (← targetValue place).toNumber
      let new := if up then old + 1 else old - 1
      assign place (.number new)
      pure (.number (if before then old else new))
    | .calculate calculation left right => do
      let a ← eval launch fuel left
      let b ← eval launch fuel right
      pure (.number (calculation.apply a.toNumber b.toNumber))
    | .negative value => do pure (.number (-(← eval launch fuel value).toNumber))
    | .positive value => do pure (.number (← eval launch fuel value).toNumber)
    | .not value => do pure (.ofBool (!(← eval launch fuel value).isTrue))
    | .compare relation left right => do
      let a ← eval launch fuel left
      let b ← eval launch fuel right
      pure (.ofBool (relation.holds (← compare a b)))
    | .fits negated text regex => do
      let value ← eval launch fuel text
      let plan ← regexPlan launch fuel regex
      pure (.ofBool (plan.isIn (← textOf value) != negated))
    | .join left right => do
      let a ← textOf (← eval launch fuel left)
      let b ← textOf (← eval launch fuel right)
      pure (.text (a ++ b))
    | .both left right => do
      if (← eval launch fuel left).isTrue then do
        pure (.ofBool (← eval launch fuel right).isTrue)
      else pure (.ofBool false)
    | .either left right => do
      if (← eval launch fuel left).isTrue then pure (.ofBool true)
      else do pure (.ofBool (← eval launch fuel right).isTrue)
    | .choice condition yes no => do
      if (← eval launch fuel condition).isTrue then eval launch fuel yes else eval launch fuel no
    | .isIn keys name => do
      let key ← keyFor launch fuel keys
      let number ← tableNumber name
      let found := (← table number).has key
      if found then changeTable number fun table => table.touch key
      pure (.ofBool found)
    | .call name arguments => call launch fuel name arguments
    | .builtin builtin arguments => builtinValue launch fuel builtin arguments
    | .takeLine isCommand source goal => takeLine launch fuel isCommand source goal
    | .group value => eval launch fuel value

def regexPlan (launch : Exec.Launch) : Nat → Expr → Scan Regex.Plan
  | 0, _ => ofExec Exec.sleepForever
  | fuel + 1, expr =>
    match expr with
    | .regex source => planFor source
    | expr => do planFor (← textOf (← eval launch fuel expr))

def keyFor (launch : Exec.Launch) : Nat → List Expr → Scan Key
  | 0, _ => ofExec Exec.sleepForever
  | fuel + 1, exprs => do
    match exprs with
    | [expr] => do keyOf (← eval launch fuel expr)
    | exprs => do
      let values ← evalAll launch fuel exprs
      let texts ← values.mapM textOf
      pure (.text ((← globalText "SUBSEP").intercalate texts))

def evalAll (launch : Exec.Launch) : Nat → List Expr → Scan (List Value)
  | 0, _ => ofExec Exec.sleepForever
  | fuel + 1, exprs => do
    match exprs with
    | [] => pure []
    | expr :: rest => do
      let value ← eval launch fuel expr
      let values ← evalAll launch fuel rest
      pure (value :: values)

def target (launch : Exec.Launch) : Nat → Expr → Scan Target
  | 0, _ => ofExec Exec.sleepForever
  | fuel + 1, expr => do
    match expr with
    | .name name => pure (.name name)
    | .element name keys => do
      let key ← keyFor launch fuel keys
      let number ← tableNumber name
      changeTable number fun table => table.make key
      pure (.element number key)
    | .field index => do pure (.field (← fieldIndex (← eval launch fuel index)))
    | .group expr => target launch fuel expr
    | _ => pure (.field 0)

def takeLine (launch : Exec.Launch) : Nat → Bool → Option Expr → Option Expr → Scan Value
  | 0, _, _, _ => ofExec Exec.sleepForever
  | fuel + 1, isCommand, source, goal => do
    step
    let place ← match goal with
      | some goal => do pure (some (← target launch fuel goal))
      | none => pure none
    let found ← match source with
      | none => do pure (some (← takeRecord))
      | some source => do
        let name ← textOf (← eval launch fuel source)
        feedRecord launch isCommand name
    match found with
    | none => pure (.number (-1))
    | some none => pure (.number 0)
    | some (some record) => do
      match place with
      | some place => assign place (.input record)
      | none => setRecord record
      pure (.number 1)

def builtinValue (launch : Exec.Launch) : Nat → Builtin → List Expr → Scan Value
  | 0, _, _ => ofExec Exec.sleepForever
  | fuel + 1, builtin, arguments => do
    match builtin, arguments with
    | .length, [.name name] => do
      if (← isTable name) then do
        pure (.ofNat (← table (← tableNumber name)).values.size)
      else plainBuiltin launch .length [← nameValue name]
    | .split, text :: .name table :: rest => do
      let value ← eval launch fuel text
      let separator ← match rest with
        | [] => do pure (← get).separator
        | .regex source :: _ => do pure (Separator.fitting (← planFor source))
        | expr :: _ => do
          let source ← textOf (← eval launch fuel expr)
          ofSpelling source (Separator.ofText source)
      let number ← tableNumber table
      setParts number (separator.parts (← textOf value))
    | .matching, [text, regex] => do
      let value ← eval launch fuel text
      let plan ← regexPlan launch fuel regex
      match plan.find? [] (← textOf value) with
      | some found => setFound (found.before.length + 1) (Float.ofNat found.text.length)
      | none => setFound 0 (-1)
    | .sub, regex :: replacement :: rest | .gsub, regex :: replacement :: rest => do
      let plan ← regexPlan launch fuel regex
      let new ← textOf (← eval launch fuel replacement)
      let place ← match rest with
        | goal :: _ => target launch fuel goal
        | [] => pure (.field 0)
      let text ← textOf (← targetValue place)
      if builtin = .sub then
        match replaceFirst plan new text with
        | some text => do
          assign place (.text text)
          pure (.number 1)
        | none => pure (.number 0)
      else do
        let (text, count) := replacedAll plan new text
        if 0 < count then assign place (.text text)
        pure (.ofNat count)
    | builtin, arguments => do
      let values ← evalAll launch fuel arguments
      plainBuiltin launch builtin values

def call (launch : Exec.Launch) : Nat → String → List Expr → Scan Value
  | 0, _, _ => ofExec Exec.sleepForever
  | fuel + 1, name, arguments => do
    step
    match (← get).functions.find? (·.name = name) with
    | none => pure .unset
    | some function => do
      let found ← slots launch fuel function.tables arguments
      let outer ← get
      if mostCalls ≤ outer.depth then
        fail "program limit exceeded: eval stack size=1024".toList
      set { outer with
        frame := function.parameters.zip (found.map Prod.fst)
        depth := outer.depth + 1 }
      let result ← try
          exec launch fuel function.body
          pure .unset
        catch
          | .giveBack value => pure value
          | leaving => throw leaving
      modify fun scanner => { scanner with
        frame := outer.frame
        depth := outer.depth
        tables := found.foldl (fun tables (slot, isFresh) => match slot, isFresh with
          | .table number, true => tables.erase number
          | _, _ => tables) scanner.tables }
      pure result

/-- What the parameters of a function stand for, given which of them are tables. It is told which
tables are new. -/
def slots (launch : Exec.Launch) : Nat → List Bool → List Expr → Scan (List (Slot × Bool))
  | 0, _, _ => ofExec Exec.sleepForever
  | fuel + 1, tables, arguments => do
    match tables, arguments with
    | [], _ => pure []
    | isTable :: tables, arguments => do
      let slot : Slot × Bool ← match isTable, arguments with
        | true, .name name :: _ => do pure (.table (← tableNumber name), false)
        | true, _ => do pure (.table (← newTable), true)
        | false, argument :: _ => do pure (.scalar (← eval launch fuel argument), false)
        | false, [] => pure (.scalar .unset, false)
      let rest ← slots launch fuel tables arguments.tail
      pure (slot :: rest)

def deliverTo (launch : Exec.Launch) : Nat → Option (Outlet × Expr) → List Char → Scan Unit
  | 0, _, _ => ofExec Exec.sleepForever
  | fuel + 1, outlet, text => do
    match outlet with
    | none => emitOutput text
    | some (outlet, expr) => do
      let name ← textOf (← eval launch fuel expr)
      emit outlet name text

def exec (launch : Exec.Launch) : Nat → Statement → Scan Unit
  | 0, _ => ofExec Exec.sleepForever
  | fuel + 1, statement => do
    match statement with
    | .nothing => pure ()
    | .expr value => do
      let _ ← eval launch fuel value
    | .print values outlet => do
      let texts ← match values with
        | [] => do pure [← wholeRecord]
        | values => do (← evalAll launch fuel values).mapM (textBy "OFMT")
      let text := (← globalText "OFS").intercalate texts ++ (← globalText "ORS")
      deliverTo launch fuel outlet text
    | .format values outlet => do
      let values ← evalAll launch fuel values
      let (text, _) ← formatted (if outlet.isSome then "printf " else "printf") values
      deliverTo launch fuel outlet text
    | .block statements => execAll launch fuel statements
    | .choose condition yes no => do
      if (← eval launch fuel condition).isTrue then exec launch fuel yes else exec launch fuel no
    | .repeatWhile condition body => repeatWhile launch fuel condition .nothing body
    | .doWhile body condition => do
      if (← execOnce launch fuel body) then repeatWhile launch fuel condition .nothing body
    | .loop start condition after body => do
      exec launch fuel start
      repeatWhile launch fuel (condition.getD (.number 1)) after body
    | .each goal name body => do
      let number ← tableNumber name
      changeTable number Table.withTexts
      repeatFor launch fuel goal (← table number).names body
    | .next => throw .next
    | .nextFile => throw .nextFile
    | .exit status => do
      match status with
      | some status => do
        let value ← eval launch fuel status
        modify fun scanner => { scanner with
          status := (truncated value.toNumber % 256).toNat }
      | none => pure ()
      throw .exit
    | .giveBack value => do
      let result ← match value with
        | some value => eval launch fuel value
        | none => pure .unset
      throw (.giveBack result)
    | .leave => throw .leave
    | .goOn => throw .goOn
    | .delete table keys => do
      let key ← keyFor launch fuel keys
      let number ← tableNumber table
      changeTable number fun table => table.erase key
    | .clear table => do setTable (← tableNumber table) {}

def execAll (launch : Exec.Launch) : Nat → List Statement → Scan Unit
  | 0, _ => ofExec Exec.sleepForever
  | fuel + 1, statements => do
    match statements with
    | [] => pure ()
    | statement :: rest => do
      exec launch fuel statement
      execAll launch fuel rest

def execOnce (launch : Exec.Launch) : Nat → Statement → Scan Bool
  | 0, _ => ofExec Exec.sleepForever
  | fuel + 1, body => do
    step
    try
      exec launch fuel body
      pure true
    catch
      | .leave => pure false
      | .goOn => pure true
      | leaving => throw leaving

def repeatWhile (launch : Exec.Launch) : Nat → Expr → Statement → Statement → Scan Unit
  | 0, _, _, _ => ofExec Exec.sleepForever
  | fuel + 1, condition, after, body => do
    if (← eval launch fuel condition).isTrue then
      if (← execOnce launch fuel body) then do
        exec launch fuel after
        repeatWhile launch fuel condition after body
      else pure ()
    else pure ()

def repeatFor (launch : Exec.Launch) : Nat → String → List String → Statement → Scan Unit
  | 0, _, _, _ => ofExec Exec.sleepForever
  | fuel + 1, goal, names, body => do
    match names with
    | [] => pure ()
    | name :: rest => do
      assignName goal (.text name.toList)
      if (← execOnce launch fuel body) then repeatFor launch fuel goal rest body
      else pure ()

end

/-! ## Rules -/

def maxSteps : Nat := 1000000

def isMeant (launch : Exec.Launch) (pattern : Pattern) : Scan Bool := do
  let holds (condition : Expr) : Scan Bool := do
    pure (← eval launch maxSteps condition).isTrue
  match pattern with
  | .start | .finish => pure false
  | .always => pure true
  | .when condition => holds condition
  | .range number first last => do
    let inside ← if (← get).ranges.contains number then pure true else holds first
    if inside then do
      let isOver ← holds last
      modify fun scanner => { scanner with
        ranges := if isOver then scanner.ranges.filter (· ≠ number)
          else number :: scanner.ranges.filter (· ≠ number) }
    pure inside

def runRules (launch : Exec.Launch) (rules : List Rule) : Scan Unit :=
  rules.forM fun rule => do
    if (← isMeant launch rule.pattern) then
      match rule.body with
      | some body => exec launch maxSteps body
      | none => exec launch maxSteps (.print [] none)

def runRecords (launch : Exec.Launch) (rules : List Rule) : Nat → Scan Unit
  | 0 => ofExec Exec.sleepForever
  | count + 1 => do
    match (← takeRecord) with
    | none => pure ()
    | some record => do
      setRecord record
      try runRules launch rules
      catch
        | .next => pure ()
        | .nextFile => modify fun scanner => { scanner with source := none }
        | leaving => throw leaving
      runRecords launch rules count

def untilExit (run : Scan Unit) : Scan Bool := do
  try
    run
    pure true
  catch
    | .exit => pure false
    | leaving => throw leaving

def runProgram (launch : Exec.Launch) (program : Program) : Scan Unit := do
  let bodies (isMeant : Pattern → Bool) : List Statement :=
    program.rules.filterMap fun rule => if isMeant rule.pattern then rule.body else none
  let starts := bodies fun
    | .start => true
    | _ => false
  let ends := bodies fun
    | .finish => true
    | _ => false
  let rules := program.rules.filter fun rule => match rule.pattern with
    | .start | .finish => false
    | _ => true
  let goesOn ← untilExit (starts.forM (exec launch maxSteps))
  if goesOn && !(rules.isEmpty && ends.isEmpty) then do
    let _ ← untilExit (runRecords launch rules maxSteps)
  let _ ← untilExit (ends.forM (exec launch maxSteps))

def all (launch : Exec.Launch) (program : Program) : Scan Unit := do
  try runProgram launch program
  catch _ => pure ()
  closeAll launch

end Scan

end HouseStyle.Shell.Awk
