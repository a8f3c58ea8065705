import HouseStyle.Shell.Utility.Creation

namespace HouseStyle.Shell.Exec

/-- A template for names: what stands before the letters that are replaced, how many they are, and
what stands behind them. -/
structure NameTemplate where
  front : List Char
  count : Nat
  back : List Char

namespace NameTemplate

def ofText (text : List Char) (others : Nat) : NameTemplate :=
  let body := text.take (text.length - others)
  let count := (body.reverse.takeWhile (· = 'X')).length
  { front := body.take (body.length - count), count, back := text.drop (text.length - others) }

def letters : List Char :=
  "abcdefghijklmnopqrstuvwxyzABCDEFGHIJKLMNOPQRSTUVWXYZ0123456789".toList

def drawn : Nat → Nat → List Char
  | 0, _ => []
  | count + 1, number => letters[number % 62]?.getD 'a' :: drawn count (number / 62)

def filled (template : NameTemplate) (number : Nat) : List Char :=
  template.front ++ drawn template.count number ++ template.back

end NameTemplate

def maxNames : Nat := 1000

def freeName? (template : NameTemplate) : Nat → Nat → Exec (Option (List Char))
  | 0, _ => pure none
  | tries + 1, number => do
    let name := template.filled number
    match (← locateIn false name) with
    | .ok (.found _) => freeName? template tries (number + 7919)
    | _ => pure (some name)

def temporaryDirectory (chosen : Option (List Char)) (prefersOutside : Bool) :
    Exec (List Char) := do
  let outside ← environment? "TMPDIR"
  let order := if prefersOutside then [outside, chosen] else [chosen, outside]
  pure ((order.findSome? fun path => path.filter (· ≠ [])).getD "/tmp".toList)

def makeTemporary (arguments : Arguments) (path : List Char) (others : Nat) : Exec Nat := do
  let template := NameTemplate.ofText path others
  let refuse (reason : String) : Exec Nat := do
    let sort := if arguments.has 'd' then "directory" else "file"
    if !arguments.has 'q' then
      programError (("failed to create " ++ sort ++ " via template ").toList ++ quoted path ++
        ": ".toList ++ reason.toList)
    pure 1
  let number := (((← get).now + 77777) * 48271 % 0x7fffffffffff).toNat
  match (← freeName? template maxNames number) with
  | none => refuse "File exists"
  | some name => do
    let made : Except FileError Unit ← if arguments.has 'u' then pure (.ok ())
      else match (← locateIn false name) with
        | .ok (.vacant place) => do
          let mask := (← process).mask
          modify (if arguments.has 'd' then
            (·.create place .directory (some (Mode.without 0o700 mask)))
          else (·.create place (.file []) (some (Mode.without 0o600 mask))))
          pure (.ok ())
        | .ok (.found _) => pure (.error .alreadyThere)
        | .error error => pure (.error error)
    match made with
    | .ok () => do
      put (name ++ ['\n'])
      pure 0
    | .error error => refuse error.reason

def mktemp (words : List (List Char)) : Exec Nat :=
  let forms := OptionForm.letters "t" ++
    OptionForm.named [('d', "directory"), ('u', "dry-run"), ('q', "quiet")] ++
    OptionForm.valued "p" ++ OptionForm.namedValued [('σ', "suffix")] ++
    [{ letter := 'π', name := "tmpdir", demand := .optional }]
  withArguments 1 forms words fun arguments => do
    let refuse (first : String) (word : List Char) (second : String) : Exec Nat := do
      programError (first.toList ++ quoted word ++ second.toList)
      pure 1
    match arguments.operands with
    | _ :: _ :: _ => misuse "too many templates".toList
    | operands => do
      let given := operands.headD "tmp.XXXXXXXXXX".toList
      let suffix? := arguments.value? 'σ'
      let template := given ++ suffix?.getD []
      let suffix := match suffix? with
        | some suffix => suffix
        | none =>
          if template.contains 'X' then (template.reverse.takeWhile (· ≠ 'X')).reverse else []
      let count := (NameTemplate.ofText template suffix.length).count
      let inDirectory := operands = [] || arguments.has 't' || arguments.has 'p' || arguments.has 'π'
      if suffix?.isSome && given.getLast? ≠ some 'X' then
        refuse "with --suffix, template " given " must end in X"
      else if suffix.contains '/' then
        refuse "invalid suffix " suffix ", contains directory separator"
      else if count < 3 then refuse "too few X's in template " template ""
      else if !inDirectory then makeTemporary arguments template suffix.length
      else if arguments.has 't' && template.contains '/' then
        refuse "invalid template, " template ", contains directory separator"
      else if template.head? = some '/' then
        refuse "invalid template, " template "; with --tmpdir, it may not be absolute"
      else do
        let chosen := (arguments.options.filter fun (letter, _) =>
          letter = 'p' || letter = 'π').getLast?.map Prod.snd
        let directory ← temporaryDirectory chosen (arguments.has 't')
        makeTemporary arguments (pathIn directory template) suffix.length

end HouseStyle.Shell.Exec
