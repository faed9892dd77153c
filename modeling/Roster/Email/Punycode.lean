import Roster.Text.Pieces

namespace Roster.Email.Punycode

open Text

def digit (n : Nat) : Char :=
  Char.ofNat (if n < 26 then n + 97 else n + 22)

def value? (c : Char) : Option Nat :=
  if 'a' ≤ c && c ≤ 'z' then some (c.toNat - 97)
  else if 'A' ≤ c && c ≤ 'Z' then some (c.toNat - 65)
  else if isDigit c then some (c.toNat - 22)
  else none

/-- The least digit at a position that does not end a number. -/
def threshold (position bias : Nat) : Nat :=
  max 1 (min 26 (position - bias))

def shrink : Nat → Nat → Nat → Nat × Nat
  | 0, delta, k => (delta, k)
  | fuel + 1, delta, k => if delta ≤ 455 then (delta, k) else shrink fuel (delta / 35) (k + 36)

def adapt (delta count : Nat) (isFirst : Bool) : Nat :=
  let delta := if isFirst then delta / 700 else delta / 2
  let (delta, k) := shrink delta (delta + delta / count) 0
  k + 36 * delta / (delta + 38)

/-- A coder in the middle of a text: the code point and bias it has come to. -/
structure State where
  code : Nat := 128
  bias : Nat := 72

def digits (bias : Nat) : Nat → Nat → Nat → List Char
  | 0, _, _ => []
  | fuel + 1, position, n =>
    let t := threshold position bias
    if n < t then [digit n]
    else digit (t + (n - t) % (36 - t)) :: digits bias fuel (position + 36) ((n - t) / (36 - t))

/-- Writes the distances to all places of the code point `m`; `delta` is counted from the last place
written, and `handled` characters have been written so far. -/
def encodeOne (m basic : Nat) : List Nat → Nat → Nat → Nat → List Char × Nat × Nat × Nat
  | [], delta, bias, handled => ([], delta, bias, handled)
  | c :: rest, delta, bias, handled =>
    if c < m then encodeOne m basic rest (delta + 1) bias handled
    else if c == m then
      let written := digits bias (delta + 1) 36 delta
      let (more, last) :=
        encodeOne m basic rest 0 (adapt delta (handled + 1) (handled == basic)) (handled + 1)
      (written ++ more, last)
    else encodeOne m basic rest delta bias handled

def encodeFrom (basic : Nat) (input : List Nat) : List Nat → State → Nat → Nat → List Char
  | [], _, _, _ => []
  | m :: rest, s, delta, handled =>
    let (written, delta, bias, done) :=
      encodeOne m basic input (delta + (m - s.code) * (handled + 1)) s.bias handled
    written ++ encodeFrom basic input rest ⟨m + 1, bias⟩ (delta + 1) done

def encode (cs : List Char) : List Char :=
  let plain := cs.filter (·.toNat < 128)
  let others := ((cs.map Char.toNat).filter (128 ≤ ·)).eraseDups.mergeSort
  (if plain.isEmpty then [] else plain ++ ['-']) ++
    encodeFrom plain.length (cs.map Char.toNat) others {} 0 plain.length

def number? (bias : Nat) : List Char → Nat → Nat → Nat → Option (Nat × List Char)
  | [], _, _, _ => none
  | c :: rest, position, weight, sum => do
    let n ← value? c
    let t := threshold position bias
    let sum := sum + n * weight
    if n < t then return (sum, rest) else number? bias rest (position + 36) (weight * (36 - t)) sum

def decodeFrom : Nat → State → Nat → List Char → List Char → Option (List Char)
  | 0, _, _, _, _ => none
  | _ + 1, _, _, known, [] => some known
  | fuel + 1, s, place, known, rest => do
    let (delta, rest) ← number? s.bias rest 36 1 0
    let count := known.length + 1
    let code := s.code + (place + delta) / count
    guard code.isValidChar
    let bias := adapt delta count (place == 0)
    let place := (place + delta) % count
    decodeFrom fuel ⟨code, bias⟩ (place + 1)
      (known.take place ++ Char.ofNat code :: known.drop place) rest

def decode? (cs : List Char) : Option (List Char) :=
  let (plain, rest) := ((splitLast (· == '-') cs).filter (!·.1.isEmpty)).getD ([], cs)
  if plain.all (·.toNat < 128) then decodeFrom (rest.length + 1) {} 0 plain rest else none

end Roster.Email.Punycode
