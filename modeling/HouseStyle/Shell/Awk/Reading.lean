import HouseStyle.Shell.Awk.Spelling

namespace HouseStyle.Shell.Awk

inductive Kind where
  | scalar
  | table
  deriving DecidableEq, Repr

structure Reader where
  rest : List Lexeme
  faults : List Complaint := []
  kinds : List (String × Kind) := []
  function : Option String := none
  parameters : Option (List (String × Option Kind)) := none
  functions : List Function := []
  calls : List (String × Nat × Nat) := []
  /-- The names that are arguments: in which function they stand, to which one they are passed, and as
  which of its arguments. -/
  passed : List (Option String × String × String × Nat) := []
  parentheses : Nat := 0
  braces : Nat := 0
  loops : Nat := 0
  atEdge : Bool := false
  ranges : Nat := 0
  rules : List Rule := []

abbrev Reading := ExceptT Unit (StateM Reader)

namespace Reading

def note (complaint : Complaint) : Reading Unit :=
  modify fun reader => { reader with faults := complaint :: reader.faults }

def peek : Reading Lexeme := do
  let reader ← get
  match reader.rest with
  | [] => pure ⟨.ending, 0⟩
  | [lexeme] => pure lexeme
  | lexeme :: next :: rest =>
    match lexeme.token with
    | .sign ")" =>
      if reader.parentheses = 0 then do
        note (atLine lexeme.line "extra ')'".toList)
        modify fun reader => { reader with rest := next :: rest }
        pure next
      else pure lexeme
    | .sign "\x7d" =>
      if reader.braces = 0 then do
        note (atLine lexeme.line "extra '\x7d'".toList)
        modify fun reader => { reader with rest := next :: rest }
        pure next
      else pure lexeme
    | _ => pure lexeme

def drop : Reading Unit := do
  let token := (← peek).token
  modify fun reader =>
    let reader := { reader with
      rest := match reader.rest with
        | [last] => [last]
        | rest => rest.tail }
    match token with
    | .sign "(" => { reader with parentheses := reader.parentheses + 1 }
    | .sign ")" => { reader with parentheses := reader.parentheses - 1 }
    | .sign "\x7b" => { reader with braces := reader.braces + 1 }
    | .sign "\x7d" => { reader with braces := reader.braces - 1 }
    | _ => reader

def refuse {α : Type} : Reading α := do
  let lexeme ← peek
  let reader ← get
  let near := lexeme.token.shown
  let isEnd : Bool := match lexeme.token with
    | .sign "\x7d" | .sign ";" | .newline | .ending => true
    | _ => false
  let isLast : Bool := match lexeme.token with
    | .ending => true
    | _ => false
  match lexeme.token with
  | .broken complaint => do
    note complaint
    -- Nothing that follows can be read.
    modify fun reader => { reader with rest := [] }
  | _ =>
    if 0 < reader.parentheses && isEnd then
      note (atLine lexeme.line ("missing ) near ".toList ++ near))
    else if 0 < reader.braces && isLast then
      note (atLine lexeme.line ("missing \x7d near ".toList ++ near))
    else note (atLine lexeme.line ("syntax error at or near ".toList ++ near))
  throw ()

def isSign (sign : String) : Reading Bool := do
  match (← peek).token with
  | .sign other => pure (other = sign)
  | _ => pure false

def isWord (word : String) : Reading Bool := do
  match (← peek).token with
  | .word other => pure (other = word)
  | _ => pure false

def sign? (sign : String) : Reading Bool := do
  if (← isSign sign) then do
    drop
    pure true
  else pure false

def expect (sign : String) : Reading Unit := do
  if !(← sign? sign) then refuse

def isNewline : Reading Bool := do
  match (← peek).token with
  | .newline => pure true
  | _ => pure false

def skipNewlines : Reading Unit := do
  let rest := (← get).rest
  let isNewline (lexeme : Lexeme) : Bool := match lexeme.token with
    | .newline => true
    | _ => false
  modify fun reader => { reader with rest := rest.dropWhile isNewline }

def isTerminated : Reading Bool := do
  match (← peek).token with
  | .newline | .ending | .sign ";" | .sign "\x7d" => pure true
  | _ => pure false

def checkRegex (line : Nat) (source : List Char) : Reading Unit :=
  match Spelling.regexOf source with
  | .ok _ => pure ()
  | .error fault =>
    note (atLine line (("regular expression compile failed (" ++ fault.message ++ ")\n").toList ++
      source))

/-! ## Names -/

def kindName : Kind → String
  | .scalar => "variable"
  | .table => "array"

def useName (name : String) (kind : Kind) : Reading Unit := do
  let reader ← get
  let line := (← peek).line
  let conflict (what : String) (known : Kind) : Reading Unit :=
    note (atLine line ("illegal reference to " ++ what ++ kindName known ++ " " ++ name).toList)
  match reader.parameters.bind (·.lookup name) with
  | some (some known) => if known ≠ kind then conflict "local " known else pure ()
  | some none =>
    modify fun reader => { reader with
      parameters := reader.parameters.map (·.map fun (other, old) =>
        (other, if other = name then some kind else old)) }
  | none =>
    match reader.kinds.lookup name with
    | some known => if known ≠ kind then conflict "" known else pure ()
    | none => modify fun reader => { reader with kinds := (name, kind) :: reader.kinds }

def isTarget : Expr → Bool
  | .name _ | .element _ _ | .field _ => true
  | _ => false

def calculationOf? (sign : String) : Option (Option Calculation) :=
  [("=", none), ("+=", some .add), ("-=", some .subtract), ("*=", some .multiply),
    ("/=", some .divide), ("%=", some .modulo), ("^=", some .power)].lookup sign

def relationOf? (sign : String) : Option Relation :=
  [("==", Relation.equal), ("!=", .different), ("<", .less), ("<=", .atMost), (">", .greater),
    (">=", .atLeast)].lookup sign

def startsValue : Token → Bool
  | .number _ _ | .text _ | .regex _ | .name _ | .callee _ | .builtin _ _ => true
  | .sign sign => ["$", "!", "(", "-", "+", "++", "--"].contains sign
  | _ => false

/-! ## Expressions -/

mutual

def expr : Nat → Bool → Reading Expr
  | 0, _ => throw ()
  | fuel + 1, bare => do
    let condition ← operators fuel bare 1
    if (← sign? "?") then do
      skipNewlines
      let yes ← expr fuel bare
      skipNewlines
      expect ":"
      skipNewlines
      let no ← expr fuel bare
      pure (.choice condition yes no)
    else pure condition

/-- Read what operators join that bind at least as tightly as said: 1 for alternatives, 2 for both, 3
for membership, 4 for fitting, 5 for comparisons. -/
def operators : Nat → Bool → Nat → Reading Expr
  | 0, _, _ => throw ()
  | fuel + 1, bare, strength => do
    let first ← joined fuel bare
    let left ← match (← peek).token with
      | .sign sign =>
        match calculationOf? sign, isTarget first with
        | some calculation, true => do
          drop
          skipNewlines
          let value ← expr fuel bare
          pure (.assign first calculation value)
        | _, _ => pure first
      | _ => pure first
    moreOperators fuel bare strength left

def moreOperators : Nat → Bool → Nat → Expr → Reading Expr
  | 0, _, _, _ => throw ()
  | fuel + 1, bare, strength, left => do
    match (← peek).token with
    | .sign "||" =>
      if strength ≤ 1 then do
        drop
        skipNewlines
        let right ← operators fuel bare 2
        moreOperators fuel bare strength (.either left right)
      else pure left
    | .sign "&&" =>
      if strength ≤ 2 then do
        drop
        skipNewlines
        let right ← operators fuel bare 3
        moreOperators fuel bare strength (.both left right)
      else pure left
    | .word "in" =>
      if strength ≤ 3 then do
        drop
        match (← peek).token with
        | .name table => do
          useName table .table
          drop
          moreOperators fuel bare strength (.isIn [left] table)
        | _ => refuse
      else pure left
    | .sign sign =>
      if sign = "~" || sign = "!~" then
        if strength ≤ 4 then do
          let line := (← peek).line
          drop
          let right ← operators fuel bare 5
          match right with
          | .text source => checkRegex line source
          | _ => pure ()
          moreOperators fuel bare strength (.fits (sign = "!~") left right)
        else pure left
      else match relationOf? sign with
      | some relation =>
        if strength ≤ 5 && !(bare && sign = ">") then do
          drop
          let right ← operators fuel bare 6
          moreOperators fuel bare strength (.compare relation left right)
        else pure left
      | none => pure left
    | _ => pure left

def joined : Nat → Bool → Reading Expr
  | 0, _ => throw ()
  | fuel + 1, bare => do
    let first ← sum fuel bare
    moreJoined fuel bare first

def moreJoined : Nat → Bool → Expr → Reading Expr
  | 0, _, _ => throw ()
  | fuel + 1, bare, left => do
    if startsValue (← peek).token then do
      let right ← sum fuel bare
      moreJoined fuel bare (.join left right)
    else pure left

def sum : Nat → Bool → Reading Expr
  | 0, _ => throw ()
  | fuel + 1, bare => do
    let first ← product fuel bare
    moreSum fuel bare first

def moreSum : Nat → Bool → Expr → Reading Expr
  | 0, _, _ => throw ()
  | fuel + 1, bare, left => do
    if (← sign? "+") then do
      let right ← product fuel bare
      moreSum fuel bare (.calculate .add left right)
    else if (← sign? "-") then do
      let right ← product fuel bare
      moreSum fuel bare (.calculate .subtract left right)
    else pure left

def product : Nat → Bool → Reading Expr
  | 0, _ => throw ()
  | fuel + 1, bare => do
    let first ← signed fuel bare
    moreProduct fuel bare first

def moreProduct : Nat → Bool → Expr → Reading Expr
  | 0, _, _ => throw ()
  | fuel + 1, bare, left => do
    if (← sign? "*") then do
      let right ← signed fuel bare
      moreProduct fuel bare (.calculate .multiply left right)
    else if (← sign? "/") then do
      let right ← signed fuel bare
      moreProduct fuel bare (.calculate .divide left right)
    else if (← sign? "%") then do
      let right ← signed fuel bare
      moreProduct fuel bare (.calculate .modulo left right)
    else pure left

def signed : Nat → Bool → Reading Expr
  | 0, _ => throw ()
  | fuel + 1, bare => do
    if (← sign? "!") then do pure (.not (← signed fuel bare))
    else if (← sign? "-") then do pure (.negative (← signed fuel bare))
    else if (← sign? "+") then do pure (.positive (← signed fuel bare))
    else do
      let value ← power fuel bare
      fromCommand fuel bare value

def fromCommand : Nat → Bool → Expr → Reading Expr
  | 0, _, _ => throw ()
  | fuel + 1, bare, value => do
    let isTaking : Bool := match (← get).rest with
      | ⟨.sign "|", _⟩ :: ⟨.word "getline", _⟩ :: _ => !bare
      | _ => false
    if isTaking then do
      drop
      drop
      let target ← target? fuel
      fromCommand fuel bare (.takeLine true (some value) target)
    else pure value

def power : Nat → Bool → Reading Expr
  | 0, _ => throw ()
  | fuel + 1, bare => do
    let base ← stepped fuel
    if (← sign? "^") then do
      match (← peek).token with
      | .sign "-" | .sign "+" | .sign "!" => do
        let exponent ← signed fuel bare
        pure (.calculate .power base exponent)
      | _ => do
        let exponent ← power fuel bare
        pure (.calculate .power base exponent)
    else pure base

def stepped : Nat → Reading Expr
  | 0 => throw ()
  | fuel + 1 => do
    if (← sign? "++") then do
      let target ← single fuel
      if isTarget target then pure (.step target true false) else refuse
    else if (← sign? "--") then do
      let target ← single fuel
      if isTarget target then pure (.step target false false) else refuse
    else do
      let value ← single fuel
      if !isTarget value then pure value
      else if (← sign? "++") then pure (.step value true true)
      else if (← sign? "--") then pure (.step value false true)
      else pure value

def target? : Nat → Reading (Option Expr)
  | 0 => throw ()
  | fuel + 1 => do
    match (← peek).token with
    | .name _ | .sign "$" => do
      let target ← single fuel
      pure (some target)
    | _ => pure none

def single : Nat → Reading Expr
  | 0 => throw ()
  | fuel + 1 => do
    let lexeme ← peek
    match lexeme.token with
    | .number value spelled => do
      if value == ofBits false Binary64.infinity then
        note (atLine lexeme.line (spelled ++ " : decimal overflow".toList))
      drop
      pure (.number value)
    | .text text => do
      drop
      pure (.text text)
    | .regex source => do
      checkRegex lexeme.line source
      drop
      pure (.regex source)
    | .sign "$" => do
      drop
      match (← peek).token with
      | .sign "++" | .sign "--" => do pure (.field (← stepped fuel))
      | .sign "-" | .sign "+" | .sign "!" => do pure (.field (← signed fuel false))
      | _ => do pure (.field (← single fuel))
    | .sign "(" => do
      drop
      let values ← exprs fuel false
      expect ")"
      match values with
      | [value] => pure (.group value)
      | values => do
        if (← isWord "in") then do
          drop
          match (← peek).token with
          | .name table => do
            useName table .table
            drop
            pure (.isIn values table)
          | _ => refuse
        else refuse
    | .name name => do
      drop
      if (← sign? "[") then do
        useName name .table
        let keys ← exprs fuel false
        expect "]"
        pure (.element name keys)
      else do
        let isBare ← isArgument
        if !isBare then useName name .scalar
        pure (.name name)
    | .callee name => do
      drop
      expect "("
      let known := (← get).kinds.lookup name
      match known with
      | some _ => do
        useName name .scalar
        let value ← expr fuel false
        expect ")"
        pure (.join (.name name) value)
      | none => do
        let values ← arguments fuel
        expect ")"
        let passed := values.zipIdx.filterMap fun (value, index) => match value with
          | .name argument => some (argument, name, index)
          | _ => none
        modify fun reader => { reader with
          calls := (name, values.length, lexeme.line) :: reader.calls
          passed := reader.passed ++ passed.map fun found => (reader.function, found) }
        match (← get).functions.find? (·.name = name) with
        | some found =>
          if found.parameters.length < values.length then
            note (atLine lexeme.line ("too many arguments in call to " ++ name).toList)
        | none => pure ()
        pure (.call name values)
    | .builtin builtin name => do
      drop
      builtinCall fuel builtin name lexeme.line
    | .word "getline" => do
      drop
      let target ← target? fuel
      if (← sign? "<") then do
        let source ← stepped fuel
        pure (.takeLine false (some source) target)
      else pure (.takeLine false none target)
    | _ => refuse

def isArgument : Reading Bool := do
  let reader ← get
  match reader.rest with
  | ⟨.sign ",", _⟩ :: _ | ⟨.sign ")", _⟩ :: _ => pure (reader.parentheses ≠ 0)
  | _ => pure false

def builtinCall : Nat → Builtin → String → Nat → Reading Expr
  | 0, _, _, _ => throw ()
  | fuel + 1, builtin, name, line => do
    let hasArguments ← isSign "("
    if builtin = .length && !hasArguments then pure (.builtin builtin [])
    else do
      expect "("
      match builtin with
      | .length => do
        let values ← if (← isSign ")") then pure [] else do pure [← expr fuel false]
        expect ")"
        pure (.builtin builtin values)
      | .split => do
        let text ← expr fuel false
        expect ","
        skipNewlines
        match (← peek).token with
        | .name table => do
          useName table .table
          drop
          let separator ← if (← sign? ",") then do pure [← expr fuel false] else pure []
          expect ")"
          pure (.builtin builtin (text :: .name table :: separator))
        | _ => refuse
      | .sub | .gsub => do
        let regex ← expr fuel false
        match regex with
        | .text source => checkRegex line source
        | _ => pure ()
        expect ","
        skipNewlines
        let replacement ← expr fuel false
        let target ← if (← sign? ",") then do
            match (← peek).token with
            | .name _ | .sign "$" | .sign "(" => do
              let target ← single fuel
              match target with
              | .name target => useName target .scalar
              | _ => pure ()
              pure [target]
            | _ => refuse
          else pure []
        expect ")"
        pure (.builtin builtin (regex :: replacement :: target))
      | _ => do
        let values ← arguments fuel
        expect ")"
        let (least, most) := builtin.arity
        if values.length < least || most < values.length then
          note (atLine line ("wrong number of arguments in call to " ++ name).toList)
        pure (.builtin builtin values)

def arguments : Nat → Reading (List Expr)
  | 0 => throw ()
  | fuel + 1 => do
    if (← isSign ")") then pure [] else exprs fuel false

def exprs : Nat → Bool → Reading (List Expr)
  | 0, _ => throw ()
  | fuel + 1, bare => do
    let first ← expr fuel bare
    if (← sign? ",") then do
      skipNewlines
      let rest ← exprs fuel bare
      pure (first :: rest)
    else pure [first]

end

/-! ## Statements -/

def outlet? (fuel : Nat) : Reading (Option (Outlet × Expr)) := do
  if (← sign? ">") then do pure (some (.overwrite, ← expr fuel false))
  else if (← sign? ">>") then do pure (some (.append, ← expr fuel false))
  else if (← sign? "|") then do pure (some (.command, ← expr fuel true))
  else pure none

def endsPrinting : Reading Bool := do
  match (← peek).token with
  | .sign ">" | .sign ">>" | .sign "|" => pure true
  | _ => isTerminated

def printed (fuel : Nat) : Reading (List Expr) := do
  if (← endsPrinting) then pure []
  else if (← isSign "(") then do
    let before ← get
    drop
    if (← sign? ")") then pure []
    else do
      let values ← exprs fuel false
      expect ")"
      if (← endsPrinting) then pure values
      else match values with
        | [_] => do
          set before
          exprs fuel true
        | _ =>
          if (← isWord "in") then do
            set before
            exprs fuel true
          else refuse
  else exprs fuel true

def finish : Reading Unit := do
  match (← peek).token with
  | .newline | .sign ";" => drop
  | .sign "\x7d" => pure ()
  | _ => refuse

def simple (fuel : Nat) : Reading Statement := do
  let lexeme ← peek
  let inside (statement : Statement) (message : String) (isFine : Bool) : Reading Statement := do
    drop
    if !isFine then note (atLine lexeme.line message.toList)
    pure statement
  let reader ← get
  match lexeme.token with
  | .word "print" => do
    drop
    let values ← printed fuel
    pure (.print values (← outlet? fuel))
  | .word "printf" => do
    drop
    let values ← printed fuel
    if values.isEmpty then note (atLine lexeme.line "no arguments in call to printf".toList)
    pure (.format values (← outlet? fuel))
  | .word "next" =>
    inside .next "improper use of next" (!reader.atEdge && reader.parameters.isNone)
  | .word "nextfile" =>
    inside .nextFile "improper use of nextfile" (!reader.atEdge && reader.parameters.isNone)
  | .word "break" =>
    inside .leave "break statement outside of loop" (0 < reader.loops)
  | .word "continue" =>
    inside .goOn "continue statement outside of loop" (0 < reader.loops)
  | .word "exit" => do
    drop
    if (← isTerminated) then pure (.exit none) else do pure (.exit (some (← expr fuel false)))
  | .word "return" => do
    if reader.parameters.isNone then
      note (atLine lexeme.line "return outside function body".toList)
    drop
    if (← isTerminated) then pure (.giveBack none)
    else do pure (.giveBack (some (← expr fuel false)))
  | .word "delete" => do
    drop
    match (← peek).token with
    | .name table => do
      useName table .table
      drop
      if (← sign? "[") then do
        let keys ← exprs fuel false
        expect "]"
        pure (.delete table keys)
      else pure (.clear table)
    | _ => refuse
  | _ => do pure (.expr (← expr fuel false))

def recover : Reading Unit := do
  modify fun reader =>
    let isEnd (lexeme : Lexeme) : Bool := match lexeme.token with
      | .newline | .sign ";" | .sign "\x7d" | .ending | .broken _ => true
      | _ => false
    { reader with
      rest := reader.rest.dropWhile (fun lexeme => !isEnd lexeme)
      parentheses := 0 }
  match (← peek).token with
  | .newline | .sign ";" => drop
  | .sign "\x7d" => pure ()
  | .broken _ => refuse
  | _ => throw ()

mutual

def statement : Nat → Reading Statement
  | 0 => throw ()
  | fuel + 1 => do
    try plainStatement fuel
    catch _ => do
      recover
      pure .nothing

def plainStatement : Nat → Reading Statement
  | 0 => throw ()
  | fuel + 1 => do
    let lexeme ← peek
    match lexeme.token with
    | .sign "\x7b" => block fuel
    | .sign ";" => do
      drop
      pure .nothing
    | .word "if" => do
      drop
      expect "("
      let condition ← expr fuel false
      expect ")"
      skipNewlines
      -- Nothing may stand before the end of the block.
      let yes ← if (← isSign "\x7d") then pure .nothing else statement fuel
      let before ← get
      skipNewlines
      let hasSemicolon ← sign? ";"
      if hasSemicolon then skipNewlines
      if (← isWord "else") then do
        drop
        skipNewlines
        let no ← statement fuel
        pure (.choose condition yes no)
      else do
        set before
        pure (.choose condition yes .nothing)
    | .word "while" => do
      drop
      expect "("
      let condition ← expr fuel false
      expect ")"
      let body ← loopBody fuel
      pure (.repeatWhile condition body)
    | .word "do" => do
      drop
      skipNewlines
      let body ← inLoop fuel
      skipNewlines
      if !(← isWord "while") then refuse
      drop
      expect "("
      let condition ← expr fuel false
      expect ")"
      finish
      pure (.doWhile body condition)
    | .word "for" => do
      drop
      expect "("
      match (← get).rest with
      | ⟨.name target, _⟩ :: ⟨.word "in", _⟩ :: ⟨.name table, _⟩ :: ⟨.sign ")", _⟩ :: _ => do
        useName target .scalar
        useName table .table
        drop
        drop
        drop
        drop
        let body ← loopBody fuel
        pure (.each target table body)
      | _ => do
        let start ← if (← isSign ";") then pure .nothing else simple fuel
        expect ";"
        skipNewlines
        let condition ← if (← isSign ";") then pure none else do pure (some (← expr fuel false))
        expect ";"
        skipNewlines
        let step ← if (← isSign ")") then pure .nothing else simple fuel
        expect ")"
        let body ← loopBody fuel
        pure (.loop start condition step body)
    | _ => do
      let found ← simple fuel
      finish
      pure found

def loopBody : Nat → Reading Statement
  | 0 => throw ()
  | fuel + 1 => do
    skipNewlines
    if (← isSign "\x7d") then pure .nothing else inLoop fuel

def inLoop : Nat → Reading Statement
  | 0 => throw ()
  | fuel + 1 => do
    modify fun reader => { reader with loops := reader.loops + 1 }
    let body ← statement fuel
    modify fun reader => { reader with loops := reader.loops - 1 }
    pure body

def block : Nat → Reading Statement
  | 0 => throw ()
  | fuel + 1 => do
    expect "\x7b"
    let statements ← statements fuel
    expect "\x7d"
    pure (.block statements)

def statements : Nat → Reading (List Statement)
  | 0 => throw ()
  | fuel + 1 => do
    skipNewlines
    if (← isSign "\x7d") then pure []
    else do
      match (← peek).token with
      | .ending => refuse
      | _ => do
        let first ← statement fuel
        let rest ← statements fuel
        pure (first :: rest)

end

/-! ## Programs -/

def parameters (function : String) : Nat → List String → Reading (List String)
  | 0, _ => throw ()
  | fuel + 1, before => do
    match (← peek).token with
    | .name name => do
      if name = function then do
        note (atLine (← peek).line "function parameter cannot be the function".toList)
        refuse
      if before.contains name then
        note (atLine (← peek).line (name ++ " is duplicated in argument list").toList)
      drop
      if (← sign? ",") then do
        skipNewlines
        let rest ← parameters function fuel (name :: before)
        pure (name :: rest)
      else pure [name]
    | _ => refuse

def function (fuel : Nat) : Reading Unit := do
  let lexeme ← peek
  match lexeme.token with
  | .name name | .callee name => do
    let reader ← get
    match reader.kinds.lookup name with
    | some kind =>
      note (atLine lexeme.line ("illegal reference to " ++ kindName kind ++ " " ++ name).toList)
    | none => pure ()
    if reader.functions.any (·.name = name) then
      note (atLine lexeme.line ("redefinition of " ++ name).toList)
    drop
    expect "("
    let names ← if (← isSign ")") then pure [] else parameters name fuel []
    expect ")"
    skipNewlines
    modify fun reader => { reader with
      function := some name, parameters := some (names.map fun name => (name, none)) }
    let body ← block fuel
    let found := ((← get).parameters.getD [])
    modify fun reader => { reader with
      function := none, parameters := none
      functions := reader.functions ++ [{
        name, parameters := names, body
        tables := found.map fun (_, kind) => kind = some .table }] }
  | _ => refuse

def item (fuel : Nat) : Reading Unit := do
  let edge (pattern : Pattern) : Reading Unit := do
    drop
    modify fun reader => { reader with atEdge := true }
    let body ← block fuel
    modify fun reader => { reader with
      atEdge := false, rules := reader.rules ++ [{ pattern, body := some body }] }
  let add (pattern : Pattern) : Reading Unit := do
    let body ← if (← isSign "\x7b") then do pure (some (← block fuel)) else pure none
    if body.isNone then
      if !(← isTerminated) then refuse
    modify fun reader => { reader with rules := reader.rules ++ [{ pattern, body }] }
  match (← peek).token with
  | .word "function" => do
    drop
    function fuel
  | .word "BEGIN" => edge .start
  | .word "END" => edge .finish
  | .sign "\x7b" => add .always
  | _ => do
    let first ← expr fuel false
    if (← sign? ",") then do
      skipNewlines
      let last ← expr fuel false
      let number := (← get).ranges
      modify fun reader => { reader with ranges := number + 1 }
      add (.range number first last)
    else add (.when first)

def recoverOutside : Reading Unit := do
  modify fun reader =>
    let isBlock (lexeme : Lexeme) : Bool := match lexeme.token with
      | .sign "\x7b" | .broken _ => true
      | _ => false
    { reader with
      rest := reader.rest.dropWhile (fun lexeme => !isBlock lexeme)
      parentheses := 0, braces := 0, loops := 0, atEdge := false, function := none
      parameters := none }

def items (fuel : Nat) : Nat → Reading Unit
  | 0 => pure ()
  | count + 1 => do
    skipNewlines
    match (← peek).token with
    | .ending => pure ()
    | _ => do
      let isFine ← try
          item fuel
          pure true
        catch _ => pure false
      if isFine then do
        let before := (← get).faults.length
        let _ ← sign? ";"
        -- Behind a brace that closes nothing, the line may not end.
        let isExtra := before < (← get).faults.length
        let isEnd ← isNewline
        if isExtra && isEnd then
          note (atLine (← peek).line ("syntax error at or near ".toList ++ (← peek).token.shown))
        items fuel count
      else do
        recoverOutside
        if !(← get).rest.isEmpty then items fuel count

def checkCalls (line : Nat) : Reading Unit := do
  let reader ← get
  (reader.calls.reverse.map (·.1)).eraseDups.forM fun name =>
    if !reader.faults.isEmpty || reader.functions.any (·.name = name) then pure ()
    else note (atLine line ("function " ++ name ++ " never defined").toList)
  reader.calls.reverse.forM fun (name, count, callLine) =>
    match reader.functions.find? (·.name = name) with
    | some found =>
      if reader.faults.isEmpty && found.parameters.length < count then
        note (atLine callLine ("too many arguments in call to " ++ name).toList)
      else pure ()
    | none => pure ()

def isTable (functions : List Function) (name : String) (index : Nat) : Bool :=
  functions.any fun found => found.name = name && (found.tables[index]?).getD false

def spreadTables (passed : List (Option String × String × String × Nat))
    (functions : List Function) : List Function :=
  passed.foldl (fun functions (caller, argument, callee, index) =>
    if isTable functions callee index then
      functions.map fun found =>
        if some found.name = caller then
          { found with
            tables := (found.parameters.zip found.tables).map fun (parameter, known) =>
              known || parameter = argument }
        else found
    else functions) functions

def program (count : Nat) : Reading Unit := do
  items (16 * count + 64) count
  checkCalls (← peek).line

end Reading

def knownKinds : List (String × Kind) :=
  [("ENVIRON", .table), ("ARGV", .table)] ++
    ["NR", "FNR", "NF", "FS", "RS", "OFS", "ORS", "SUBSEP", "FILENAME", "RSTART", "RLENGTH",
      "CONVFMT", "OFMT", "ARGC"].map fun name => (name, .scalar)

def mostFaults : Nat := 5

def Program.ofText (text : List Char) : Except (List Complaint) Program :=
  let lexemes := tokensOf text
  let (_, reader) := (Reading.program lexemes.length).run.run { rest := lexemes, kinds := knownKinds }
  if reader.faults.isEmpty then
    let functions := (List.range (reader.passed.length + 1)).foldl
      (fun functions _ => Reading.spreadTables reader.passed functions) reader.functions
    .ok { rules := reader.rules, functions }
  else .error (reader.faults.reverse.take mostFaults)

end HouseStyle.Shell.Awk
