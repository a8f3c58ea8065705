import HouseStyle.Toml.Scalar

/-!
# Configuration documents

A document is a list of statements: a header starts a table, and an assignment puts a value at a
key, which may be a path of keys, into the table that the last header started. Tables come into
being as they are named. What may be named again is kept with each table: whether it was only
implied by a longer path, and whether it was made by a dotted key.
-/

namespace HouseStyle.Toml

open Text (Reader)
open Text.Reader

/-! ## Tables while a document is read -/

mutual

inductive Item where
  | value (value : Value)
  | table (table : Table)
  | tables (tables : List Table)

inductive Table where
  | mk (implied dotted : Bool) (items : List (String × Item))

end

namespace Table

def isImplied : Table → Bool
  | mk implied _ _ => implied

def isDotted : Table → Bool
  | mk _ dotted _ => dotted

def items : Table → List (String × Item)
  | mk _ _ items => items

def empty : Table := mk false false []

def named (table : Table) : Table := mk false false table.items

def setItems (table : Table) (items : List (String × Item)) : Table :=
  mk table.isImplied table.isDotted items

def store (key : String) (item : Item) : List (String × Item) → List (String × Item)
  | [] => [(key, item)]
  | entry :: rest => if entry.1 = key then (key, item) :: rest else entry :: store key item rest

end Table

abbrev Change := StateT Table Option

variable {α : Type}

/-- Make a change at the end of a path. Tables that the path names are made on the way. A value is
no table; of a list of tables the last is meant. A dotted key goes only through tables that were
never named by a header. -/
def below (dotted : Bool) (change : Change α) : List String → Change α
  | [], table => change table
  | key :: path, table =>
    match table.items.lookup key with
    | none => do
      let (result, child) ← below dotted change path (.mk true dotted [])
      pure (result, table.setItems (Table.store key (.table child) table.items))
    | some (.value _) => none
    | some (.table child) =>
      if dotted && !child.isImplied then none
      else do
        let (result, child) ← below dotted change path child
        pure (result, table.setItems (Table.store key (.table child) table.items))
    | some (.tables list) =>
      match list.getLast? with
      | none => none
      | some child => do
        let (result, child) ← below dotted change path child
        let list := list.dropLast ++ [child]
        pure (result, table.setItems (Table.store key (.tables list) table.items))

/-- Put a value at the end of a path of keys. The last key must be new, and a table that a header
made is not reached by a dotted key. -/
def assign (path : List String) (key : String) (value : Value) : Change Unit :=
  below true (fun table =>
    if table.isDotted = path.isEmpty then none
    else if (table.items.lookup key).isSome then none
    else some ((), table.setItems (table.items ++ [(key, .value value)]))) path

mutual

def Item.toValue : Item → Value
  | .value value => value
  | .table table => .table table.toEntries
  | .tables list => .array (tablesToValues list)

def Table.toEntries : Table → List (String × Value)
  | .mk _ _ items => itemsToEntries items

def itemsToEntries : List (String × Item) → List (String × Value)
  | [] => []
  | (key, item) :: rest => (key, item.toValue) :: itemsToEntries rest

def tablesToValues : List Table → List Value
  | [] => []
  | table :: rest => .table table.toEntries :: tablesToValues rest

end

/-! ## Keys and values -/

def isBareKeyChar (c : Char) : Bool :=
  c.isAlphanum || c = '-' || c = '_'

def key : Reader String := do
  let text ← (do char '"'; basicBody) <|> (do char '\''; literalBody) <|> run1 isBareKeyChar
  pure (String.ofList text)

def nestingLimit : Nat := 80

def keyPath : Reader (List String) := do
  let keys ← separated (char '.') (do spaces; let key ← key; spaces; pure key)
  if keys.length < nestingLimit then pure keys else failure

def comment : Reader Unit := do
  char '#'
  let _ ← run isPlain

def gap : Reader Unit := do
  let _ ← many (do
    (do let _ ← run1 isSpace) <|> newline <|> (do comment; newline))

def arrayOf (item : Reader Value) : Reader Value := do
  char '['
  gap
  let items ← maybe (do
    let items ← separated (char ',') (do gap; let item ← item; gap; pure item)
    let _ ← maybe (char ',')
    gap
    pure items)
  char ']'
  pure (.array (items.getD []))

def pairOf (value : Reader Value) : Reader (List String × Value) := do
  let path ← keyPath
  char '='
  spaces
  pure (path, ← value)

def tableOf (value : Reader Value) : Reader Value := do
  char '\x7b'
  let pairs ← maybe (separated (char ',') (do let pair ← pairOf value; spaces; pure pair))
  spaces
  char '\x7d'
  let fill : Change Unit := (pairs.getD []).forM fun (path, value) =>
    match path.getLast? with
    | some key => assign path.dropLast key value
    | none => failure
  match fill .empty with
  | some (_, table) => pure (.table table.toEntries)
  | none => failure

def value : Nat → Reader Value
  | 0 => scalar
  | depth + 1 => fun text =>
    match text.head? with
    | some '[' => arrayOf (value depth) text
    | some '\x7b' => tableOf (value depth) text
    | _ => scalar text

/-! ## Statements -/

inductive Statement where
  | table (path : List String)
  | listTable (path : List String)
  | assignment (path : List String) (value : Value)

def lineEnd : Reader Unit := do
  spaces
  let _ ← maybe comment
  newline <|> atEnd

def statement : Reader Statement := do
  match (← get) with
  | '[' :: '[' :: _ =>
    literal ['[', '[']
    let path ← keyPath
    literal [']', ']']
    lineEnd
    pure (.listTable path)
  | '[' :: _ =>
    char '['
    let path ← keyPath
    char ']'
    lineEnd
    pure (.table path)
  | _ =>
    let (path, value) ← pairOf (value (nestingLimit - 1))
    lineEnd
    pure (.assignment path value)

def statements : Reader (List Statement) := do
  let _ ← maybe (char (Char.ofNat 0xFEFF))
  let blank : Reader (Option Statement) := do
    spaces
    newline <|> (do comment; newline <|> atEnd)
    pure none
  let found ← many (blank <|> (do spaces; pure (some (← statement))))
  spaces
  atEnd
  pure (found.filterMap id)

/-! ## From statements to a table -/

structure Draft where
  root : Table := .empty
  current : Table := .empty
  place : List String := []
  inList : Bool := false

namespace Draft

def settle (draft : Draft) : Option Table :=
  match draft.place.getLast? with
  | none => some draft.current
  | some key =>
    let change : Change Unit := fun parent =>
      match parent.items.lookup key, draft.inList with
      | some (.tables list), true =>
        let grown := Item.tables (list ++ [draft.current])
        some ((), parent.setItems (Table.store key grown parent.items))
      | none, false =>
        some ((), parent.setItems (Table.store key (.table draft.current) parent.items))
      | _, _ => none
    (below false change draft.place.dropLast draft.root).map (·.2)

def startTable (path : List String) (root : Table) : Option Draft := do
  let key ← path.getLast?
  let change : Change Table := fun parent =>
    let others := parent.setItems (parent.items.filter (·.1 ≠ key))
    match parent.items.lookup key with
    | none => some (.empty, others)
    | some (.table table) =>
      if table.isImplied && !table.isDotted then some (table.named, others) else none
    | some _ => none
  let (current, root) ← below false change path.dropLast root
  pure { root, current, place := path }

def startListTable (path : List String) (root : Table) : Option Draft := do
  let key ← path.getLast?
  let change : Change Unit := fun parent =>
    match parent.items.lookup key with
    | none => some ((), parent.setItems (Table.store key (.tables []) parent.items))
    | some (.tables _) => some ((), parent)
    | some _ => none
  let (_, root) ← below false change path.dropLast root
  pure { root, place := path, inList := true }

def add (draft : Draft) : Statement → Option Draft
  | .table path => do startTable path (← draft.settle)
  | .listTable path => do startListTable path (← draft.settle)
  | .assignment path value => do
    let key ← path.getLast?
    let (_, current) ← assign path.dropLast key value draft.current
    pure { draft with current }

end Draft

def parse (text : List Char) : Option (List (String × Value)) := do
  let statements ← statements.all text
  let draft ← statements.foldlM Draft.add {}
  let root ← draft.settle
  pure root.toEntries

end HouseStyle.Toml
