namespace HouseStyle.Binary64

def infinity : Nat := 0x7FF0000000000000

def nan : Nat := 0x7FF8000000000000

def leastNormal : Nat := 0x0010000000000000

def signBit : Nat := 0x8000000000000000

def roundQuotient (numerator denominator : Nat) : Nat :=
  let quotient := numerator / denominator
  let rest := 2 * (numerator % denominator)
  if rest < denominator || (rest = denominator && quotient % 2 = 0) then quotient else quotient + 1

/-- The bits of a positive quotient. With `exponent` that of the greatest power of two that is not
above it, 53 digits are kept, or fewer next to zero. -/
def ofQuotient (numerator denominator : Nat) : Nat :=
  let guess : Int := numerator.log2 - denominator.log2
  let reaches := numerator <<< (-guess).toNat ≥ denominator <<< guess.toNat
  let exponent := if reaches then guess else guess - 1
  let unit := if exponent < -1022 then -1074 else exponent - 52
  let digits := roundQuotient (numerator <<< (-unit).toNat) (denominator <<< unit.toNat)
  Nat.min infinity ((unit + 1074).toNat <<< 52 + digits)

def ofDecimal (mantissa : Nat) (exponent : Int) : Nat :=
  let size := (toString mantissa).length + exponent
  if mantissa = 0 || size < -330 then 0
  else if size > 310 then infinity
  else ofQuotient (mantissa * Nat.pow 10 exponent.toNat) (Nat.pow 10 (-exponent).toNat)

end HouseStyle.Binary64
