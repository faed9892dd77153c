import Roster.Binary64.Reading
import Roster.Calendar.Date
import Roster.Encoding.Hex
import Roster.Settings.Value
import Roster.Timestamp.Rfc3339
import Roster.Toml.Text

namespace Roster.Toml

open Settings (Value)
open Text

def digits (isDigit : Char → Bool) : Scan (List Char) := do
  return (← Scan.separated (Scan.run₁ isDigit) (Scan.char '_')).flatten

def wholePart : Scan (List Char) := do
  let cs ← digits isDigit
  guard (cs.length == 1 || cs.head? != some '0')
  return cs

def inRange (n : Int) : Scan Value := do
  guard (Int64.minValue.toInt ≤ n && n ≤ Int64.maxValue.toInt)
  return .int n

def decimal : Scan Value := do
  let isNegative ← Decimal.sign
  let n : Int := ofDigits (← wholePart)
  inRange (if isNegative then -n else n)

def based (lead : String) (base : Nat) : Scan Value := do
  Scan.word lead
  let cs ← digits fun c ↦ ((Hex.value? c).filter (· < base)).isSome
  inRange (cs.foldl (fun n c ↦ base * n + (Hex.value? c).getD 0) 0 : Nat)

def integer : Scan Value :=
  based "0x" 16 <|> based "0o" 8 <|> based "0b" 2 <|> decimal

def exponentPart : Scan Int := do
  discard (Scan.one fun c ↦ c == 'e' || c == 'E')
  let isNegative ← Decimal.sign
  let n ← ofDigits <$> digits isDigit
  return if isNegative then -n else n

/-- A number with a fraction, an exponent or both. What is too large for a number is refused. -/
def float : Scan Value := do
  let isNegative ← Decimal.sign
  let whole ← wholePart
  let fraction ← Scan.optional (do Scan.char '.'; digits isDigit)
  let exponent ← if fraction.isSome then Scan.optional exponentPart else some <$> exponentPart
  let fraction := fraction.getD []
  let x := Binary64.ofDecimal
    ⟨isNegative, ofDigits (whole ++ fraction), exponent.getD 0 - fraction.length⟩
  guard (x != .infinite false)
  return .float x

def specialFloat : Scan Value := do
  let isNegative ← Decimal.sign
  (do Scan.word "inf"; return .float (.infinite isNegative)) <|>
    (do Scan.word "nan"; return .float .nan)

def bool : Scan Value :=
  (do Scan.word "true"; return .bool true) <|> (do Scan.word "false"; return .bool false)

def twoDigits (lo hi : Nat) : Scan Nat := do
  let n ← ofDigits <$> Scan.times (Scan.one isDigit) 2
  guard (lo ≤ n && n ≤ hi)
  return n

def date : Scan String := do
  let year ← ofDigits <$> Scan.times (Scan.one isDigit) 4
  Scan.char '-'
  let month ← twoDigits 1 12
  Scan.char '-'
  let day ← twoDigits 1 31
  guard (Calendar.Date.isValid ⟨year, month, day⟩)
  return Timestamp.padded 4 year ++ "-" ++ Timestamp.padded 2 month ++ "-" ++
    Timestamp.padded 2 day

def secondFraction : Scan String := do
  Scan.char '.'
  let cs ← Scan.run₁ isDigit
  let cs := ((cs.take 9).reverse.dropWhile (· == '0')).reverse
  return if cs.isEmpty then "" else String.ofList ('.' :: cs)

def time : Scan String := do
  let hour ← twoDigits 0 23
  Scan.char ':'
  let minute ← twoDigits 0 59
  Scan.char ':'
  let second ← twoDigits 0 60
  let fraction ← Scan.optional secondFraction
  return Timestamp.padded 2 hour ++ ":" ++ Timestamp.padded 2 minute ++ ":" ++
    Timestamp.padded 2 second ++ fraction.getD ""

def offset : Scan String :=
  (do
    discard (Scan.one fun c ↦ c == 'Z' || c == 'z')
    return "Z") <|>
  (do
    let sign ← Scan.one fun c ↦ c == '+' || c == '-'
    let hour ← twoDigits 0 23
    Scan.char ':'
    let minute ← twoDigits 0 59
    let sign := if hour == 0 && minute == 0 then '+' else sign
    return sign.toString ++ Timestamp.padded 2 hour ++ ":" ++ Timestamp.padded 2 minute)

def timeOfDate : Scan String := do
  discard (Scan.one fun c ↦ c == 'T' || c == 't' || c == ' ')
  return "T" ++ (← time) ++ (← Scan.optional offset).getD ""

def moment : Scan Value :=
  (do return .text ((← date) ++ (← Scan.optional timeOfDate).getD "")) <|>
    (do return .text (← time))

def scalar : Scan Value :=
  (do return .text (← string)) <|> moment <|> float <|> integer <|> specialFloat <|> bool

end Roster.Toml
