import Roster.Encoding.Bytes

namespace Roster.Hex

def lowerDigits : List Char := "0123456789abcdef".toList

def digit (n : Nat) : Char :=
  lowerDigits.getD n '0'

def value? (c : Char) : Option Nat :=
  if '0' ≤ c && c ≤ '9' then some (c.toNat - 48)
  else if 'a' ≤ c && c ≤ 'f' then some (c.toNat - 87)
  else if 'A' ≤ c && c ≤ 'F' then some (c.toNat - 55)
  else none

def isLower (c : Char) : Bool :=
  ('0' ≤ c && c ≤ '9') || ('a' ≤ c && c ≤ 'f')

def encode (bytes : Bytes) : String :=
  String.ofList (bytes.flatMap fun b ↦ [digit (b.toNat / 16), digit (b.toNat % 16)])

def decode (s : String) : Bytes :=
  let value := fun c ↦ (value? c).getD 0
  (pairs s.toList).map fun (a, b) ↦ UInt8.ofNat (16 * value a + value b)
where
  pairs : List Char → List (Char × Char)
    | a :: b :: rest => (a, b) :: pairs rest
    | _ => []

def number? (cs : List Char) : Option Nat :=
  cs.foldl (fun n? c ↦ do return 16 * (← n?) + (← value? c)) (some 0)

end Roster.Hex
