import Roster.Binary64

namespace Roster.Binary64

/-- The numbers that are read as `m · 2 ^ e` lie from `low` to `high`, all three in units of `unit`;
the ends are among them if `m` is even. -/
structure Span where
  low : Nat
  value : Nat
  high : Nat
  unit : Nat × Nat
  hasEnds : Bool

/-- Below a power of two the neighbours are nearer. -/
def span (m : Nat) (e : Int) : Span where
  low := if m == 1 <<< 52 && e > minExponent then 4 * m - 1 else 4 * m - 2
  value := 4 * m
  high := 4 * m + 2
  unit := power 2 (e - 2)
  hasEnds := m % 2 == 0

namespace Span

variable (s : Span)

def scaled (x : Nat) (p : Int) : Nat × Nat :=
  let (up, down) := power 10 p
  (x * s.unit.1 * down, s.unit.2 * up)

def contains (c : Nat) (p : Int) : Bool :=
  let (low, d) := s.scaled s.low p
  let (high, _) := s.scaled s.high p
  if s.hasEnds then low ≤ c * d && c * d ≤ high else low < c * d && c * d < high

def nearest? (p : Int) : Option Nat :=
  let (n, d) := s.scaled s.value p
  let below := n / d
  let isBelowNearer := 2 * (n % d) < d
  match s.contains below p, s.contains (below + 1) p with
  | true, true => some (if isBelowNearer then below else below + 1)
  | true, false => some below
  | false, true => some (below + 1)
  | false, false => none

def firstPlace : Int :=
  let (n, d) := s.scaled s.value 0
  if d ≤ n then (Nat.toDigits 10 (n / d)).length - 1
  else -(Nat.toDigits 10 (d / n)).length

def shortest : Nat → Int → Nat × Int
  | 0, p => (((s.nearest? p).getD 0), p)
  | fuel + 1, p =>
    match s.nearest? p with
    | some c => (c, p)
    | none => shortest fuel (p - 1)

end Span

def positional (digits : Nat) (p : Int) : List Char :=
  let cs := Nat.toDigits 10 digits
  if 0 ≤ p then cs ++ List.replicate p.toNat '0'
  else
    let places := (-p).toNat
    let cs := List.replicate (places + 1 - cs.length) '0' ++ cs
    let fraction := (cs.drop (cs.length - places)).reverse.dropWhile (· == '0')
    cs.take (cs.length - places) ++ if fraction.isEmpty then [] else '.' :: fraction.reverse

def text : Binary64 → String
  | nan => "NaN"
  | infinite isNegative => if isNegative then "-inf" else "inf"
  | finite isNegative m e =>
    let s := span m e
    let (digits, p) := if m == 0 then (0, 0) else s.shortest 17 s.firstPlace
    String.ofList ((if isNegative then ['-'] else []) ++ positional digits p)

end Roster.Binary64
