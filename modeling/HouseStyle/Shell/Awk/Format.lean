import HouseStyle.Shell.Awk.Value

namespace HouseStyle.Shell.Awk.Format

inductive Fault where
  | notEnough
  | improper (number : Nat)
  deriving DecidableEq, Repr

def Fault.message (name : String) (format : List Char) : Fault → List Char
  | notEnough => "not enough arguments passed to ".toList ++ call
  | improper number => ("improper conversion(number " ++ toString number ++ ") in ").toList ++ call
where
  call := name.toList ++ "(\"".toList ++ format ++ "\")".toList

def signedWhole (value : Float) : Int :=
  let whole := truncated value
  if 0xFFFFFFFFFFFFFFFF < whole then 0xFFFFFFFFFFFFFFFF
  else if whole < -0x8000000000000000 then -0x7FFFFFFFFFFFFFFF
  else whole

def unsignedWhole (value : Float) : Nat :=
  let whole := truncated value
  if 0xFFFFFFFFFFFFFFFF < whole then 0xFFFFFFFFFFFFFFFF
  else if whole < -0x8000000000000000 then 0x8000000000000001
  else (whole % 0x10000000000000000).toNat

def charOf (value : Value) : Char :=
  let numbered (value : Float) : Char := Char.ofNat ((truncated value % 256).toNat)
  match value with
  | .unset => '\x00'
  | .number value => numbered value
  | .text text => text.headD '\x00'
  | .input text =>
    if looksNumeric text then numbered (numberOf text) else text.headD '\x00'

structure Progress where
  output : List Char := []
  values : List Value
  number : Nat := 0

def amount (progress : Progress) (format : List Char) :
    Except Fault (Option Int × List Char × Progress) :=
  match format with
  | '*' :: rest =>
    match progress.values with
    | [] => .error .notEnough
    | value :: values =>
      .ok (some (truncated value.toNumber), rest, { progress with values })
  | _ =>
    let digits := format.takeWhile Char.isDigit
    .ok (if digits = [] then none else some (Text.digitsValue 10 digits),
      format.drop digits.length, progress)

def directive? (write : Float → List Char) (layout : Layout) (letter : Char) (value : Value) :
    Option (List Char) :=
  match letter with
  | 's' => some (layout.text (value.toText write))
  | 'c' => some (layout.fill [charOf value])
  | 'd' | 'i' => some (layout.signed (signedWhole value.toNumber))
  | 'o' | 'u' | 'x' | 'X' => some (layout.unsigned letter (unsignedWhole value.toNumber))
  | 'e' | 'E' | 'f' | 'g' | 'G' => some (floatText layout letter value.toNumber)
  | _ => none

def go (write : Float → List Char) : Nat → Progress → List Char → List Char × Option Fault
  | 0, progress, _ => (progress.output, none)
  | _ + 1, progress, [] => (progress.output, none)
  | steps + 1, progress, c :: rest =>
    if c ≠ '%' then go write steps { progress with output := c :: progress.output } rest
    else match rest with
      | '%' :: rest => go write steps { progress with output := c :: progress.output } rest
      | _ =>
        let started := { progress with number := progress.number + 1 }
        let read : Except Fault (List Char × Progress) := do
          if started.values.isEmpty then throw .notEnough
          let flags := rest.takeWhile fun c => ['-', '+', ' ', '#', '0'].contains c
          let (width, after, progress) ← amount started (rest.drop flags.length)
          let (precision, after, progress) ← match after with
            | '.' :: after => do
              let (precision, after, progress) ← amount progress after
              pure (some (precision.getD 0), after, progress)
            | after => pure (none, after, progress)
          let after := after.dropWhile fun c => c = 'l' || c = 'h'
          let width := width.getD 0
          let layout : Layout := {
            flags := if width < 0 then '-' :: flags else flags
            width := width.natAbs
            precision := precision.bind fun n => if n < 0 then none else some n.toNat }
          match after, progress.values with
          | letter :: after, value :: values =>
            match directive? write layout letter value with
            | some text =>
              pure (after, { progress with output := text.reverse ++ progress.output, values })
            | none => throw (.improper progress.number)
          | [], _ => throw (.improper progress.number)
          | _, [] => throw .notEnough
        match read with
        | .ok (after, progress) => go write steps progress after
        | .error fault => (started.output, some fault)

/-- The text of a format with values; numbers with fractions are written by a function. If it
fails, there is a fault and the text before it. -/
def text (write : Float → List Char) (format : List Char) (values : List Value) :
    List Char × Option Fault :=
  let (output, fault) := go write (format.length + 1) { values } format
  (output.reverse, fault)

end HouseStyle.Shell.Awk.Format
