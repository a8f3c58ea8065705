import HouseStyle.Shell.Redirection
import HouseStyle.Shell.Utility.Basic

namespace HouseStyle.Shell.Exec

def visible (c : Char) : List Char :=
  let low (n : Nat) : List Char :=
    if n = 127 then ['^', '?'] else if n < 32 then ['^', Char.ofNat (n + 64)] else [Char.ofNat n]
  if c = '\n' || c = '\t' then [c]
  else if c.toNat < 128 then low c.toNat
  else ['M', '-'] ++ low (c.toNat - 128)

structure LineStyle where
  numbers : Bool
  onlyFilled : Bool
  ends : Bool
  tabs : Bool
  invisible : Bool
  squeezed : Bool

namespace LineStyle

def ofArguments (arguments : Arguments) : LineStyle :=
  let has := arguments.hasAny
  { numbers := has "n", onlyFilled := has "b", ends := has "EAe", tabs := has "TAt"
    invisible := has "vAet", squeezed := has "s" }

def isPlain (style : LineStyle) : Bool :=
  !(style.numbers || style.onlyFilled || style.ends || style.tabs || style.invisible ||
    style.squeezed)

def line (style : LineStyle) (text : List Char) : List Char :=
  let text := if style.invisible then text.flatMap visible else text
  let tab (c : Char) : List Char := if c = '\t' && style.tabs then ['^', 'I'] else [c]
  let text := text.flatMap tab
  if style.ends && text.getLast? = some '\n' then text.dropLast ++ ['$', '\n'] else text

def lines (style : LineStyle) : Nat → Bool → List (List Char) → List Char
  | _, _, [] => []
  | number, afterEmpty, text :: rest =>
    let isEmpty := text = ['\n']
    if style.squeezed && isEmpty && afterEmpty then style.lines number true rest
    else
      let isCounted := if style.onlyFilled then !isEmpty else style.numbers
      let digits := decimal number
      let start := if isCounted then
        List.replicate (6 - digits.length) ' ' ++ digits ++ ['\t'] else []
      start ++ style.line text ++
        style.lines (if isCounted then number + 1 else number) isEmpty rest

end LineStyle

def cat (words : List (List Char)) : Exec Nat :=
  let forms := OptionForm.named [('A', "show-all"), ('b', "number-nonblank"), ('E', "show-ends"),
    ('n', "number"), ('s', "squeeze-blank"), ('T', "show-tabs"), ('v', "show-nonprinting")] ++
    OptionForm.letters "etu"
  withArguments 1 forms words fun arguments => do
    let style := LineStyle.ofArguments arguments
    let paths := if arguments.operands = [] then [['-']] else arguments.operands
    let hasInput := (← streamChannel? 0).isSome
    if (← streamChannel? 1).isSome then do
      let texts ← paths.mapM fun path => do
        match (← readPath path) with
        | .ok content => do
          if style.isPlain then put content
          pure (some content)
        | .error reason => do
          pathError path reason
          pure none
      if !style.isPlain then
        put (style.lines 1 false (linesWithEnds (texts.filterMap id).flatten))
      if !hasInput && paths.contains ['-'] then
        programError "closing standard input: Bad file descriptor".toList
      pure (if texts.all Option.isSome then 0 else 1)
    else do
      programError "standard output: Bad file descriptor".toList
      pure 1

def yes (words : List (List Char)) : Exec Nat := do
  let words := if words.head? = some ['-', '-'] then words.tail else words
  let line := [' '].intercalate (if words = [] then [['y']] else words) ++ ['\n']
  let room := (← outputRoom).getD 0
  put (List.replicate (room / line.length + 1) line).flatten
  if (← process).choked then do
    programError ("standard output: ".toList ++ (← outputFault).toList)
    changeProcess fun process => { process with choked := false }
    pure 1
  else sleepForever

def tee (words : List (List Char)) : Exec Nat :=
  let forms := OptionForm.named [('a', "append"), ('i', "ignore-interrupts")]
  withArguments 1 forms words fun arguments => do
    let paths := arguments.operands
    let opening : Opening := if arguments.has 'a' then .append else .overwrite
    let channels ← paths.mapM fun path => do
      match (← openChannel opening path) with
      | .ok number => pure (some number)
      | .error error => do
        pathError path error.reason
        pure none
    let text ← readAll 0
    put text
    (channels.filterMap id).forM fun number => do
      let _ ← writeChannel number text
    pure (if channels.all Option.isSome then 0 else 1)

end HouseStyle.Shell.Exec
