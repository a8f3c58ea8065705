import HouseStyle.Shell.Arithmetic
import HouseStyle.Text.Find

namespace HouseStyle.Shell.Mode

def ofFile : Nat := 0o644

def ofDirectory : Nat := 0o755

def all : Nat := 0o7777

def kept : Nat := 0o6000

def without (mode bits : Nat) : Nat :=
  mode - (mode &&& bits)

def canRun (mode : Nat) : Bool :=
  mode &&& 0o111 ≠ 0

inductive Action where
  | add
  | remove
  | assign
  deriving DecidableEq, Repr

inductive Operand where
  | bits (bits : Nat)
  | given (bits : Nat)
  | runnable (bits : Nat)
  deriving DecidableEq, Repr

structure Change where
  who : Option Nat
  action : Action
  operand : Operand
  mentioned : Nat
  deriving DecidableEq, Repr

def whoBits? (c : Char) : Option Nat :=
  [('u', 0o4700), ('g', 0o2070), ('o', 0o1007), ('a', 0o7777)].lookup c

def action? : Char → Option Action
  | '+' => some .add
  | '-' => some .remove
  | '=' => some .assign
  | _ => none

def letterBits? (c : Char) : Option Nat :=
  [('r', 0o444), ('w', 0o222), ('x', 0o111), ('X', 0), ('s', 0o6000), ('t', 0o1000)].lookup c

/-- The operand at the start of a text, with for whom it is and what it mentions, and what follows
it. A number is for all. -/
def operand? (who : Option Nat) (text : List Char) :
    Option (Operand × Option Nat × Nat × List Char) :=
  match text with
  | 'u' :: rest => some (.given 0o700, who, 0o777, rest)
  | 'g' :: rest => some (.given 0o070, who, 0o777, rest)
  | 'o' :: rest => some (.given 0o007, who, 0o777, rest)
  | text =>
    let digits := text.takeWhile Arithmetic.isOctal
    if digits ≠ [] then
      let value := Text.digitsValue 8 digits
      if who.isSome || all < value then none
      else some (.bits value, some all, all, text.drop digits.length)
    else
      let letters := text.takeWhile fun c => (letterBits? c).isSome
      let bits := letters.foldl (fun bits c => bits ||| (letterBits? c).getD 0) 0
      let operand := if letters.contains 'X' then .runnable bits else .bits bits
      some (operand, who, bits, text.drop letters.length)

def changes? (who : Option Nat) : Nat → List Char → Option (List Change)
  | 0, _ => none
  | _ + 1, [] => some []
  | steps + 1, sign :: rest => do
    let action ← action? sign
    let (operand, affected, mentioned, rest) ← operand? who rest
    let more ← changes? who steps rest
    pure ({ who := affected, action, operand, mentioned } :: more)

def clause? (text : List Char) : Option (List Change) :=
  let persons := text.takeWhile fun c => (whoBits? c).isSome
  let rest := text.drop persons.length
  let who := persons.foldl (fun bits c => bits ||| (whoBits? c).getD 0) 0
  if rest = [] then none
  else changes? (if persons = [] then none else some who) (rest.length + 1) rest

def ofText? (text : List Char) : Option (List Change) :=
  if text ≠ [] && text.all Arithmetic.isOctal then
    let value := Text.digitsValue 8 text
    let mentioned := if text.length < 5 then (value &&& 0o7000) ||| 0o777 else all
    if value ≤ all then
      some [{ who := some all, action := .assign, operand := .bits value, mentioned }]
    else none
  else ((Text.splitAt ',' text).mapM clause?).map List.flatten

def spread (bits : Nat) : Nat :=
  let part (mask : Nat) : Nat := if bits &&& mask ≠ 0 then mask else 0
  bits ||| part 0o444 ||| part 0o222 ||| part 0o111

def Change.apply (isDirectory : Bool) (mask mode : Nat) (change : Change) : Nat :=
  let omitted := if isDirectory then without kept change.mentioned else 0
  let bits := match change.operand with
    | .bits bits => bits
    | .given bits => spread (bits &&& mode)
    | .runnable bits => if isDirectory || canRun mode then bits ||| 0o111 else bits
  let reach := change.who.getD (without all mask)
  let bits := without (bits &&& reach) omitted
  match change.action with
  | .add => mode ||| bits
  | .remove => without mode bits
  | .assign =>
    let preserved := (change.who.map (without all)).getD 0 ||| omitted
    (mode &&& preserved) ||| bits

def apply (isDirectory : Bool) (mask : Nat) (changes : List Change) (mode : Nat) : Nat :=
  changes.foldl (fun mode change => change.apply isDirectory mask mode) mode

def letters (mode : Nat) : List Char :=
  let has (bit : Nat) : Bool := mode &&& bit ≠ 0
  let flag (bit : Nat) (c : Char) : Char := if has bit then c else '-'
  let run (bit mark : Nat) (both only : Char) : Char :=
    if has mark then (if has bit then both else only) else flag bit 'x'
  [flag 0o400 'r', flag 0o200 'w', run 0o100 0o4000 's' 'S', flag 0o040 'r', flag 0o020 'w',
    run 0o010 0o2000 's' 'S', flag 0o004 'r', flag 0o002 'w', run 0o001 0o1000 't' 'T']

def digits (mode : Nat) : List Char :=
  let octal := Nat.toDigits 8 mode
  List.replicate (4 - octal.length) '0' ++ octal

end HouseStyle.Shell.Mode
