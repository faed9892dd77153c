namespace Roster

structure Duration where
  seconds : Nat
  nanos : Nat
  deriving DecidableEq, Repr

namespace Duration

def ofSeconds (n : Nat) : Duration := ⟨n, 0⟩

def ofParts (seconds nanos : Nat) : Duration :=
  ⟨seconds + nanos / 1000000000, nanos % 1000000000⟩

def isZero (d : Duration) : Bool :=
  d.seconds == 0 && d.nanos == 0

def decimal (whole fraction places : Nat) : String :=
  let digits := Nat.toDigits 10 fraction
  let all := List.replicate (places - digits.length) '0' ++ digits
  let kept := (all.reverse.dropWhile (· == '0')).reverse
  toString whole ++ (if kept.isEmpty then "" else "." ++ String.ofList kept)

def text (d : Duration) : String :=
  if d.seconds > 0 then decimal d.seconds d.nanos 9 ++ "s"
  else if d.nanos ≥ 1000000 then decimal (d.nanos / 1000000) (d.nanos % 1000000) 6 ++ "ms"
  else if d.nanos ≥ 1000 then decimal (d.nanos / 1000) (d.nanos % 1000) 3 ++ "µs"
  else decimal d.nanos 0 0 ++ "ns"

end Duration

end Roster
