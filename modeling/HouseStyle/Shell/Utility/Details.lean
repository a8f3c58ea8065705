import HouseStyle.Shell.Printing
import HouseStyle.Shell.Utility.Listing

namespace HouseStyle.Shell

inductive Detail where
  | text (text : List Char)
  | number (letter : Char) (value : Nat)
  | seconds (time : Int)

namespace Detail

def withFlags (layout : Layout) (kept : String) : Layout :=
  { layout with flags := layout.flags.filter kept.toList.contains }

/-- Seconds: a precision gives them a fraction, for which room is made in the width. If the seconds
need more room than that, blanks fill up what the fraction has too much. -/
def secondsText (layout : Layout) (hasWidth : Bool) (time : Int) : List Char :=
  let layout := withFlags layout "'-+ 0"
  let places := layout.precision.getD 0
  let whole := { layout with precision := none }
  if places = 0 then whole.signed (time / 1000000)
  else
    let room := layout.width - 1 - places
    let isWide := hasWidth && 1 < layout.width
    let isLeft := layout.has '-'
    let front : Layout :=
      if !isWide then whole
      else if 1 < room then
        { whole with flags := layout.flags.filter (· ≠ '-'), width := if isLeft then 0 else room }
      else { whole with width := 0 }
    let seconds := front.signed (time / 1000000)
    let nanos := (toString (time % 1000000 + 1000000)).toList.tail ++ "000".toList
    let shown := Nat.min places 9
    let left := if isWide && seconds.length + 1 < layout.width then
        ((layout.width : Int) - seconds.length - 1 - shown).natAbs
      else 0
    let zeros := List.replicate (places - shown) '0'
    seconds ++ ['.'] ++ nanos.take shown ++ zeros ++ List.replicate (left - zeros.length) ' '

def textIn (layout : Layout) (hasWidth : Bool) : Detail → List Char
  | .text shown => (withFlags layout "-").text shown
  | .number letter value =>
    (withFlags layout (if letter = 'u' then "'-0" else "-#0")).unsigned letter value
  | .seconds time => secondsText layout hasWidth time

end Detail

namespace Listed

def sortName (file : Listed) : String :=
  match file.entry with
  | .directory => "directory"
  | .link _ => "symbolic link"
  | .device _ => "character special file"
  | _ => if file.size = 0 then "regular empty file" else "regular file"

def sortBits (file : Listed) : Nat :=
  match file.entry with
  | .directory => 0x4000
  | .link _ => 0xa000
  | .device _ => 0x2000
  | _ => 0x8000

def deviceNumbers (file : Listed) : Nat × Nat :=
  match file.entry with
  | .device .null => (1, 3)
  | .device .zero => (1, 5)
  | .device .full => (1, 7)
  | .device (.stream _) => (136, 0)
  | _ => (0, 0)

def quotedWith (style : Quotation.Style) (file : Listed) : List Char :=
  let quote (name : List Char) : List Char := Quotation.styled style (fun _ => false) name
  match file.entry with
  | .link target => quote file.name ++ " -> ".toList ++ quote (Exec.ofPath target.bytes)
  | _ => quote file.name

def detail? (style : Quotation.Style) (file : Listed) (letter : Char) : Option Detail :=
  let text (text : String) : Option Detail := some (.text text.toList)
  let number (value : Nat) : Option Detail := some (.number 'u' value)
  let (major, minor) := file.deviceNumbers
  match letter with
  | 'a' => some (.number 'o' file.mode)
  | 'A' => some (.text (Listing.sortLetter file.entry :: Mode.letters file.mode))
  | 'b' => number (2 * Listing.diskSize file)
  | 'B' => number 512
  | 'd' => number 65024
  | 'D' => some (.number 'x' 65024)
  | 'f' => some (.number 'x' (file.sortBits + file.mode))
  | 'F' => text file.sortName
  | 'g' | 'u' => number 0
  | 'G' | 'U' => text "root"
  | 'h' => number file.names
  | 'i' => number 1
  | 'm' => text "/"
  | 'n' => some (.text file.name)
  | 'N' => some (.text (file.quotedWith style))
  | 'o' => number 4096
  | 'r' => number (256 * major + minor)
  | 'R' => some (.number 'x' (256 * major + minor))
  | 's' => number file.size
  | 't' => some (.number 'x' major)
  | 'T' => some (.number 'x' minor)
  | 'w' | 'x' | 'y' | 'z' =>
    some (.text (DateFormat.format file.time "%Y-%m-%d %H:%M:%S.%N %z".toList))
  | 'W' | 'X' | 'Y' | 'Z' => some (.seconds file.time)
  | _ => none

def halfDetail? (file : Listed) (half letter : Char) : Option Detail :=
  let (major, minor) := if letter = 'r' then file.deviceNumbers else (254, 0)
  if letter ≠ 'r' && letter ≠ 'd' then none
  else some (.number 'u' (if half = 'H' then major else minor))

end Listed

namespace Exec

structure DetailFormat where
  pattern : List Char
  escapes : Bool
  style : Quotation.Style

def putDetails (format : DetailFormat) (file : Listed) : Nat → List Char → Exec Bool
  | 0, _ => pure true
  | _ + 1, [] => pure true
  | steps + 1, '%' :: rest => do
    let marks := rest.takeWhile fun c => "'-+ #0I".toList.contains c
    let width := (rest.drop marks.length).takeWhile Char.isDigit
    let behind := rest.drop (marks.length + width.length)
    let precision? := if behind.head? = some '.' then some (behind.tail.takeWhile Char.isDigit)
      else none
    let behind := match precision? with
      | some digits => behind.drop (digits.length + 1)
      | none => behind
    let layout : Layout := {
      flags := marks, width := Text.digitsValue 10 width
      precision := precision?.map (Text.digitsValue 10) }
    let isPlain := rest.length = behind.length
    let refuse : Exec Bool := do
      let directive := '%' :: rest.take (rest.length - behind.length + 1)
      programError (quoted directive ++ ": invalid directive".toList)
      pure false
    let putDetail (detail : Option Detail) : Exec Unit := do
      -- Seconds have nine places if a point stands alone.
      let layout := match detail, precision? with
        | some (.seconds _), some [] => { layout with precision := some 9 }
        | _, _ => layout
      put (match detail with
        | some detail => detail.textIn layout (width ≠ [])
        | none => ['?'])
    match behind with
    | [] => if isPlain then do { put ['%']; pure true } else refuse
    | '%' :: after =>
      if isPlain then do
        put ['%']
        putDetails format file steps after
      else refuse
    | half :: letter :: after =>
      if (half = 'H' || half = 'L') && (letter = 'd' || letter = 'r') then do
        putDetail (file.halfDetail? half letter)
        putDetails format file steps after
      else do
        putDetail (file.detail? format.style half)
        putDetails format file steps (letter :: after)
    | [letter] => do
      putDetail (file.detail? format.style letter)
      pure true
  | steps + 1, '\\' :: rest => do
    if !format.escapes then do
      put ['\\']
      putDetails format file steps rest
    else match rest with
      | [] => do
        programError "warning: backslash at end of format".toList
        put ['\\']
        pure true
      | c :: after => do
        let octal := (rest.take 3).takeWhile Arithmetic.isOctal
        let hex := (after.take 2).takeWhile Text.isHexDigit
        let putCode (code : Nat) (count : Nat) : Exec Bool := do
          put [Char.ofNat (code % 256)]
          putDetails format file steps (rest.drop count)
        if octal ≠ [] then putCode (Text.digitsValue 8 octal) octal.length
        else if c = 'x' && hex ≠ [] then putCode (Text.digitsValue 16 hex) (hex.length + 1)
        else match [('a', '\x07'), ('b', '\x08'), ('e', '\x1b'), ('f', '\x0c'), ('n', '\n'),
            ('r', '\r'), ('t', '\t'), ('v', '\x0b'), ('"', '"'), ('\\', '\\')].lookup c with
          | some meant => do
            put [meant]
            putDetails format file steps after
          | none => do
            programError ("warning: unrecognized escape '\\".toList ++ [c, '\''])
            put [c]
            putDetails format file steps after
  | steps + 1, c :: rest => do
    put [c]
    putDetails format file steps rest

def fullDetails (entry : Entry) : String :=
  let isDevice := match entry with
    | .device _ => true
    | _ => false
  "  File: %N\n  Size: %-10s\tBlocks: %-10b IO Block: %-6o %F\n" ++
    (if isDevice then
      "Device: %Hd,%Ld\tInode: %-10i  Links: %-5h Device type: %Hr,%Lr\n"
    else "Device: %Hd,%Ld\tInode: %-10i  Links: %h\n") ++
    "Access: (%04a/%10.10A)  Uid: (%5u/%8U)   Gid: (%5g/%8G)\n" ++
    "Access: %x\nModify: %y\nChange: %z\n Birth: %w\n"

def terseDetails : String := "%n %s %b %f %u %g %D %i %h %t %T %X %Y %Z %W %o\n"

def detailOptions : List (Char × List Char) → Option (List Char × Bool) →
    Exec (Except Nat (Option (List Char × Bool)))
  | [], pattern => pure (.ok pattern)
  | (letter, word) :: rest, pattern => do
    match letter with
    | 'c' => detailOptions rest (some (word, false))
    | 'λ' => detailOptions rest (some (word, true))
    | 'κ' => do
      match (← choiceOf "--cached" [["default"], ["never"], ["always"]] word) with
      | some _ => detailOptions rest pattern
      | none => pure (.error 1)
    | _ => detailOptions rest pattern

def putAllDetails (follows : Bool) (formatOf : Entry → DetailFormat) (isLine : Bool) :
    List (List Char) → Nat → Exec Nat
  | [], status => pure status
  | path :: rest, status => do
    match (← entryAt follows path) with
    | .error error => do
      let _ ← refusePath "cannot statx" path error.reason
      putAllDetails follows formatOf isLine rest 1
    | .ok (place, entry) => do
      let format := formatOf entry
      let file ← listedAt path place entry
      let isRight ← putDetails format file (format.pattern.length + 1) format.pattern
      if !isRight then pure 1
      else do
        if isLine then put ['\n']
        putAllDetails follows formatOf isLine rest status

def stat (words : List (List Char)) : Exec Nat := do
  let forms := OptionForm.named [('L', "dereference"), ('f', "file-system"), ('t', "terse")] ++
    OptionForm.namedValued [('c', "format"), ('λ', "printf"), ('κ', "cached")]
  withOptions 1 .mixed forms words (detailOptions · none) fun given arguments => do
    if arguments.operands = [] then missingOperand
    else do
      let style? ← quotingOutside?
      let style := style?.getD (if given.isSome then .shellEscapeAlways else .literal)
      let formatOf (entry : Entry) : DetailFormat :=
        let usual := if arguments.has 't' then terseDetails else fullDetails entry
        let (pattern, escapes) := given.getD (usual.toList, false)
        { pattern, escapes, style }
      let isLine := match given with
        | some (_, escapes) => !escapes
        | none => false
      putAllDetails (arguments.has 'L') formatOf isLine arguments.operands 0

end Exec

end HouseStyle.Shell
