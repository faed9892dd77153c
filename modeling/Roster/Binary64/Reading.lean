import Roster.Binary64
import Roster.Text.Scan

namespace Roster

open Text

def Decimal.sign : Scan Bool := do
  return (← Scan.optional (Scan.one fun c ↦ c == '+' || c == '-')) == some '-'

def Decimal.exponentPart : Scan Int := do
  let _ ← Scan.one fun c ↦ c == 'e' || c == 'E'
  let isNegative ← sign
  let n ← ofDigits <$> Scan.run₁ isDigit
  return if isNegative then -n else n

def Decimal.scan : Scan Decimal := do
  let isNegative ← sign
  let whole ← Scan.run isDigit
  let fraction ← Scan.optional (do Scan.char '.'; Scan.run isDigit)
  let digits := whole ++ fraction.getD []
  guard (!digits.isEmpty)
  let exponent ← Scan.optional exponentPart
  return ⟨isNegative, ofDigits digits, exponent.getD 0 - (fraction.getD []).length⟩

namespace Binary64

def scanName : Scan Binary64 := do
  let isNegative ← Decimal.sign
  let name := String.ofList ((← Scan.run Char.isAlpha).map Char.toLower)
  if name == "nan" then return nan
  guard (name == "inf" || name == "infinity")
  return infinite isNegative

def ofText? (s : String) : Option Binary64 :=
  (ofDecimal <$> Scan.all Decimal.scan s.toList).or (Scan.all scanName s.toList)

end Binary64

end Roster
