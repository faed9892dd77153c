import Roster.Encoding.Bytes

namespace Roster.Utf8

def lead? (b : UInt8) : Option (Nat × UInt8 × UInt8) :=
  if 0xC2 ≤ b && b ≤ 0xDF then some (2, 0x80, 0xBF)
  else if b == 0xE0 then some (3, 0xA0, 0xBF)
  else if b == 0xED then some (3, 0x80, 0x9F)
  else if 0xE1 ≤ b && b ≤ 0xEF then some (3, 0x80, 0xBF)
  else if b == 0xF0 then some (4, 0x90, 0xBF)
  else if 0xF1 ≤ b && b ≤ 0xF3 then some (4, 0x80, 0xBF)
  else if b == 0xF4 then some (4, 0x80, 0x8F)
  else none

def following (size : Nat) (lo hi : UInt8) (rest : Bytes) : Nat :=
  match rest with
  | second :: others =>
    if lo ≤ second && second ≤ hi then
      1 + ((others.take (size - 2)).takeWhile fun b ↦ 0x80 ≤ b && b ≤ 0xBF).length
    else 0
  | [] => 0

def codePoint (first : UInt8) (tail : Bytes) : Nat :=
  let start := if tail.length == 1 then first.toNat % 32
    else if tail.length == 2 then first.toNat % 16 else first.toNat % 8
  tail.foldl (fun n b ↦ n * 64 + b.toNat % 64) start

/-- The text of some bytes; each longest start of a character that does not go on becomes U+FFFD. -/
def decodeLossy : Bytes → List Char
  | [] => []
  | b :: rest =>
    if b < 0x80 then Char.ofNat b.toNat :: decodeLossy rest
    else match lead? b with
      | none => '\uFFFD' :: decodeLossy rest
      | some (size, lo, hi) =>
        let n := following size lo hi rest
        (if n + 1 == size then Char.ofNat (codePoint b (rest.take n)) else '\uFFFD') ::
          decodeLossy (rest.drop n)
termination_by bytes => bytes.length
decreasing_by all_goals simp only [List.length_cons, List.length_drop]; omega

end Roster.Utf8
