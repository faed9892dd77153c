namespace Roster

abbrev Bytes := List UInt8

namespace Bytes

def ofText (s : String) : Bytes :=
  s.toUTF8.toList

def toText? (bytes : Bytes) : Option String :=
  String.fromUTF8? ⟨bytes.toArray⟩

def littleEndian : (width n : Nat) → Bytes
  | 0, _ => []
  | width + 1, n => UInt8.ofNat (n % 256) :: littleEndian width (n / 256)

def bigEndian (width n : Nat) : Bytes :=
  (littleEndian width n).reverse

def toNat (bytes : Bytes) : Nat :=
  bytes.foldl (fun n b ↦ 256 * n + b.toNat) 0

def blocks (size : Nat) (bytes : Bytes) : List Bytes :=
  if bytes.length = 0 ∨ size = 0 then []
  else bytes.take size :: blocks size (bytes.drop size)
termination_by bytes.length
decreasing_by
  rename_i h
  simp only [List.length_drop]
  omega

end Bytes

end Roster
