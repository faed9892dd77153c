import Roster.Encoding.Bytes

namespace Roster.Base64

/-- The two characters above the letters and digits, and whether texts are padded. -/
structure Form where
  plus : Char
  slash : Char
  isPadded : Bool

def Form.standard : Form := ⟨'+', '/', true⟩

def Form.urlSafe : Form := ⟨'-', '_', false⟩

def Form.standardUnpadded : Form := ⟨'+', '/', false⟩

def Form.digit (f : Form) (n : Nat) : Char :=
  if n < 26 then Char.ofNat (n + 65)
  else if n < 52 then Char.ofNat (n + 71)
  else if n < 62 then Char.ofNat (n - 4)
  else if n = 62 then f.plus
  else f.slash

def Form.value? (f : Form) (c : Char) : Option Nat :=
  if 'A' ≤ c ∧ c ≤ 'Z' then some (c.toNat - 65)
  else if 'a' ≤ c ∧ c ≤ 'z' then some (c.toNat - 71)
  else if '0' ≤ c ∧ c ≤ '9' then some (c.toNat + 4)
  else if c = f.plus then some 62
  else if c = f.slash then some 63
  else none

def Form.padding (f : Form) (n : Nat) : List Char :=
  if f.isPadded then List.replicate n '=' else []

def encode (f : Form) : Bytes → List Char
  | [] => []
  | [a] =>
    let n := a.toNat * 16
    [f.digit (n / 64), f.digit (n % 64)] ++ f.padding 2
  | [a, b] =>
    let n := (a.toNat * 256 + b.toNat) * 4
    [f.digit (n / 4096), f.digit (n / 64 % 64), f.digit (n % 64)] ++ f.padding 1
  | a :: b :: c :: rest =>
    let n := (a.toNat * 256 + b.toNat) * 256 + c.toNat
    f.digit (n / 262144) :: f.digit (n / 4096 % 64) :: f.digit (n / 64 % 64) :: f.digit (n % 64) ::
      encode f rest

/-- The bytes of two, three or four numbers below 64; bits left over have to be zero. -/
def group? : List Nat → Option Bytes
  | [a, b] =>
    let n := a * 64 + b
    if n % 16 = 0 then some [UInt8.ofNat (n / 16)] else none
  | [a, b, c] =>
    let n := (a * 64 + b) * 64 + c
    if n % 4 = 0 then some [UInt8.ofNat (n / 1024), UInt8.ofNat (n / 4 % 256)] else none
  | [a, b, c, d] =>
    let n := ((a * 64 + b) * 64 + c) * 64 + d
    some [UInt8.ofNat (n / 65536), UInt8.ofNat (n / 256 % 256), UInt8.ofNat (n % 256)]
  | _ => none

def digits? (f : Form) : List Char → Option Bytes
  | [] => some []
  | a :: b :: c :: d :: rest => do
    let first ← group? (← [a, b, c, d].mapM f.value?)
    return first ++ (← digits? f rest)
  | last => do group? (← last.mapM f.value?)

def decode? (f : Form) (cs : List Char) : Option Bytes :=
  let digits := if f.isPadded then (cs.reverse.dropWhile (· == '=')).reverse else cs
  if f.isPadded && digits ++ List.replicate ((4 - digits.length % 4) % 4) '=' != cs then none
  else digits? f digits

def ofText? (f : Form) (s : String) : Option Bytes :=
  decode? f s.toList

def text (f : Form) (bytes : Bytes) : String :=
  String.ofList (encode f bytes)

end Roster.Base64
