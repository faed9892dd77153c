import Roster.Text.Blank
import Roster.Text.Pieces
import Roster.Timestamp

namespace Roster.Timestamp

open Text

def padded (width n : Nat) : String :=
  let digits := Nat.toDigits 10 n
  String.ofList (List.replicate (width - digits.length) '0' ++ digits)

def yearText (year : Int) : String :=
  if year < 0 then "-" ++ padded 4 year.natAbs
  else if year ≤ 9999 then padded 4 year.natAbs
  else "+" ++ padded 4 year.natAbs

def fractionText (nanos : Nat) : String :=
  if nanos == 0 then ""
  else if nanos % 1000000 == 0 then "." ++ padded 3 (nanos / 1000000)
  else if nanos % 1000 == 0 then "." ++ padded 6 (nanos / 1000)
  else "." ++ padded 9 nanos

def text (t : Timestamp) : String :=
  let date := Calendar.Date.ofDays (t.seconds / 86400)
  let ofDay := (t.seconds % 86400).toNat
  let leap := t.nanos / 1000000000
  yearText date.year ++ "-" ++ padded 2 date.month ++ "-" ++ padded 2 date.day ++ "T" ++
    padded 2 (ofDay / 3600) ++ ":" ++ padded 2 (ofDay / 60 % 60) ++ ":" ++
    padded 2 (ofDay % 60 + leap) ++ fractionText (t.nanos % 1000000000) ++ "Z"

def number? (width : Nat) (cs : List Char) : Option (Nat × List Char) :=
  let digits := (cs.take width).takeWhile isDigit
  if digits.isEmpty then none else some (ofDigits digits, cs.drop digits.length)

def spaced? (width : Nat) (cs : List Char) : Option (Nat × List Char) :=
  number? width (cs.dropWhile isBlank)

def literal? (c : Char) : List Char → Option (List Char)
  | d :: rest => if c == d then some rest else none
  | [] => none

def year? (cs : List Char) : Option (Int × List Char) :=
  match cs.dropWhile isBlank with
  | '-' :: rest => (number? rest.length rest).map fun (n, rest) ↦ (-(n : Int), rest)
  | '+' :: rest => (number? rest.length rest).map fun (n, rest) ↦ ((n : Int), rest)
  | cs => (number? 4 cs).map fun (n, rest) ↦ ((n : Int), rest)

/-- Nanoseconds after a point; digits past the ninth are dropped. -/
def fraction? : List Char → Option (Nat × List Char)
  | '.' :: rest =>
    let digits := (rest.take 9).takeWhile isDigit
    if digits.isEmpty then none
    else some (ofDigits (digits.rightpad 9 '0'),
      (rest.drop digits.length).dropWhile fun c ↦ digits.length == 9 && isDigit c)
  | cs => some (0, cs)

def twoDigits? : List Char → Option (Nat × List Char)
  | a :: b :: rest => if isDigit a && isDigit b then some (ofDigits [a, b], rest) else none
  | _ => none

def offset? (cs : List Char) : Option (Int × List Char) := do
  if ((cs.take 3).map Char.toLower) == ['u', 't', 'c'] then return (0, cs.drop 3)
  let (sign, rest) ← match cs with
    | 'Z' :: rest | 'z' :: rest => return (0, rest)
    | '+' :: rest => some ((1 : Int), rest)
    | '-' :: rest | '−' :: rest => some (-1, rest)
    | _ => none
  let (hours, rest) ← twoDigits? rest
  let (minutes, rest) ← twoDigits? (rest.dropWhile fun c ↦ c == ':' || isBlank c)
  if minutes < 60 then some (sign * (hours * 3600 + minutes * 60 : Nat), rest) else none

/-- Reads an instant. Blanks may stand before numbers and marks, a month may have one digit, the
date and the time may be apart by a blank, and any offset is allowed. -/
def ofText? (s : String) : Option Timestamp := do
  let (year, cs) ← year? s.toList
  let cs ← literal? '-' (cs.dropWhile isBlank)
  let (month, cs) ← spaced? 2 cs
  let cs ← literal? '-' (cs.dropWhile isBlank)
  let (day, cs) ← spaced? 2 cs
  let cs ← match cs with
    | c :: rest => if c == 'T' || c == 't' || c == ' ' then some rest else none
    | [] => none
  let (hour, cs) ← spaced? 2 cs
  let cs ← literal? ':' (cs.dropWhile isBlank)
  let (minute, cs) ← spaced? 2 cs
  let cs ← literal? ':' (cs.dropWhile isBlank)
  let (second, cs) ← spaced? 2 cs
  let (nanos, cs) ← fraction? cs
  let (offset, cs) ← offset? (cs.dropWhile isBlank)
  guard (cs.all isBlank)
  let date : Calendar.Date := ⟨year, month, day⟩
  guard (date.isValid && -262143 ≤ year && year ≤ 262142)
  guard (hour < 24 && minute < 60 && second ≤ 60 && offset.natAbs < 86400)
  let leap := if second == 60 then 1 else 0
  let seconds := date.toDays * 86400 + (hour * 3600 + minute * 60 + (second - leap) : Nat) - offset
  guard (firstSecond ≤ seconds && seconds ≤ lastSecond)
  return ⟨seconds, nanos + leap * 1000000000⟩

end Roster.Timestamp
