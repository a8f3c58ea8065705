import HouseStyle.Shell.Options

namespace HouseStyle.Shell

/-- A sort of limit: the letter of its option, its name, and in how many bytes or the like it is
counted. -/
structure LimitSort where
  letter : Char
  name : String
  factor : Nat

namespace LimitSort

def all : List LimitSort :=
  [⟨'t', "time(seconds)", 1⟩, ⟨'f', "file(blocks)", 512⟩, ⟨'d', "data(kbytes)", 1024⟩,
    ⟨'s', "stack(kbytes)", 1024⟩, ⟨'c', "coredump(blocks)", 512⟩, ⟨'m', "memory(kbytes)", 1024⟩,
    ⟨'l', "locked memory(kbytes)", 1024⟩, ⟨'p', "process", 1⟩, ⟨'n', "nofiles", 1⟩,
    ⟨'v', "vmemory(kbytes)", 1024⟩, ⟨'w', "locks", 1⟩, ⟨'r', "rtprio", 1⟩]

def file : LimitSort := ⟨'f', "file(blocks)", 512⟩

end LimitSort

namespace Exec

def showLimit (sort : LimitSort) (soft : Bool) : Exec (List Char) := do
  let limit := (← process).limit sort.letter
  match if soft then limit.soft else limit.hard with
  | none => pure "unlimited\n".toList
  | some value => pure (decimal (value / sort.factor) ++ ['\n'])

def limitValue (sort : LimitSort) (word : List Char) : Exec (Option Nat) := do
  if word = "unlimited".toList then pure none
  else if word.all Char.isDigit then pure (some (Text.digitsValue 10 word * sort.factor))
  else fail "bad number".toList

def setLimit (sort : LimitSort) (soft hard : Bool) (value : Option Nat) : Exec Unit := do
  let old := (← process).limit sort.letter
  let new : Limit :=
    { soft := if soft then value else old.soft, hard := if hard then value else old.hard }
  let isAbove : Bool := match new.soft, new.hard with
    | some soft, some hard => decide (hard < soft)
    | none, some _ => true
    | _, none => false
  if isAbove then fail "error setting limit (Invalid argument)".toList
  changeProcess fun process => { process with
    limits := (sort.letter, new) :: process.limits.filter (·.1 ≠ sort.letter) }

def limits (words : List (List Char)) : Exec Nat := do
  let letters := LimitSort.all.map (·.letter)
  let (options, words) ← takeOptions (('H' :: 'S' :: 'a' :: letters).map (·, false)) words
  let asked := options.map (·.1)
  let given := asked.filter fun letter => letter = 'H' || letter = 'S'
  let how := given.getLast?
  let soft : Bool := how ≠ some 'H'
  let hard : Bool := how ≠ some 'S'
  let sort := ((asked.filter letters.contains).getLast?.bind fun letter =>
    LimitSort.all.find? (·.letter = letter)).getD .file
  let showsAll := asked.contains 'a'
  match words with
  | [] => do
    if showsAll then
      let lines ← LimitSort.all.mapM fun sort => do
        let name := sort.name.toList
        pure (name ++ List.replicate (20 - name.length) ' ' ++ [' '] ++ (← showLimit sort soft))
      put lines.flatten
    else put (← showLimit sort soft)
  | word :: rest => do
    if showsAll || rest ≠ [] then fail "too many arguments".toList
    setLimit sort soft hard (← limitValue sort word)
  pure 0

end Exec

end HouseStyle.Shell
