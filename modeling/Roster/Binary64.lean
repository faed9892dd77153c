namespace Roster

/-- The value of `finite isNegative m e` is `m · 2 ^ e` with its sign. -/
inductive Binary64 where
  | finite (isNegative : Bool) (mantissa : Nat) (exponent : Int)
  | infinite (isNegative : Bool)
  | nan
  deriving DecidableEq, Repr

structure Decimal where
  isNegative : Bool
  digits : Nat
  exponent : Int
  deriving DecidableEq, Repr

namespace Binary64

def minExponent : Int := -1074

def maxExponent : Int := 971

def power (base : Nat) (e : Int) : Nat × Nat :=
  (Nat.pow base e.toNat, Nat.pow base (-e).toNat)

def roundRatio (n d : Nat) : Nat :=
  let q := n / d
  let twice := 2 * (n % d)
  if twice < d || (twice == d && q % 2 == 0) then q else q + 1

def inUnits (n d : Nat) (e : Int) : Nat × Nat :=
  let (up, down) := power 2 e
  (n * down, d * up)

def exponentFor (n d : Nat) : Int :=
  let guess := max minExponent ((n.log2 : Int) - d.log2 - 53)
  let (n, d) := inUnits n d guess
  if 1 <<< 53 ≤ n / d then guess + 1 else guess

def ofRatio (isNegative : Bool) (n d : Nat) : Binary64 :=
  if n == 0 then finite isNegative 0 minExponent
  else
    let e := exponentFor n d
    let (n, d) := inUnits n d e
    let m := roundRatio n d
    let (m, e) := if m == 1 <<< 53 then (1 <<< 52, e + 1) else (m, e)
    if e > maxExponent then infinite isNegative else finite isNegative m e

def ofDecimal (x : Decimal) : Binary64 :=
  let size := x.exponent + (Nat.toDigits 10 x.digits).length
  if x.digits == 0 || size < -400 then ofRatio x.isNegative 0 1
  else if size > 400 then infinite x.isNegative
  else
    let (up, down) := power 10 x.exponent
    ofRatio x.isNegative (x.digits * up) down

def isZero : Binary64 → Bool
  | finite _ m _ => m == 0
  | _ => false

/-- The nearest natural number, half of one being rounded up, and at most `bound`. What is negative
or no number counts as zero. -/
def toNat (bound : Nat) : Binary64 → Nat
  | finite false m e =>
    let (up, down) := power 2 e
    min bound ((2 * m * up + down) / (2 * down))
  | infinite false => bound
  | _ => 0

end Binary64

end Roster
