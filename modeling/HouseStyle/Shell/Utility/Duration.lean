import HouseStyle.Shell.Printing
import HouseStyle.Shell.Utility.Basic

namespace HouseStyle.Shell.Exec

inductive Duration where
  | microseconds (count : Nat)
  | infinite
  deriving DecidableEq, Repr

def Duration.add : Duration → Duration → Duration
  | microseconds left, microseconds right => microseconds (left + right)
  | _, _ => infinite

def duration? (text : List Char) : Option Duration :=
  let start := text.dropWhile Arithmetic.isBlank
  let start := if start.head? = some '+' then start.tail else start
  let lower := start.map Char.toLower
  let units := [([], 1), (['s'], 1), (['m'], 60), (['h'], 3600), (['d'], 86400)]
  if lower = "inf".toList || lower = "infinity".toList then some .infinite
  else match scaledDigits? start with
    | none => none
    | some (digits, power, rest) =>
      (units.lookup rest).map fun unit =>
        let scaled := digits * unit
        let exponent := power + 6
        if 0 ≤ exponent then .microseconds (scaled * Nat.pow 10 (Nat.min exponent.toNat 30))
        else
          let divisor := Nat.pow 10 (Nat.min exponent.natAbs 400)
          .microseconds ((scaled + divisor - 1) / divisor)

def pass : Duration → Exec Unit
  | .microseconds count => sleep count
  | .infinite => sleepForever

def sleepFor (words : List (List Char)) : Exec Nat :=
  withArguments 1 [] words fun arguments => do
    let operands := arguments.operands
    let bad := operands.filter fun word => (duration? word).isNone
    if operands = [] then missingOperand
    else if bad ≠ [] then do
      bad.forM fun word => programError ("invalid time interval ".toList ++ quoted word)
      hint
      pure 1
    else do
      let durations := operands.filterMap duration?
      pass (durations.foldl Duration.add (.microseconds 0))
      pure 0

end HouseStyle.Shell.Exec
