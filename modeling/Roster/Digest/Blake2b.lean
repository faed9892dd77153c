import Roster.Encoding.Bytes

namespace Roster.Blake2b

def rotateRight (x n : UInt64) : UInt64 :=
  (x >>> n) ||| (x <<< (64 - n))

def initialWords : List UInt64 :=
  [0x6a09e667f3bcc908, 0xbb67ae8584caa73b, 0x3c6ef372fe94f82b, 0xa54ff53a5f1d36f1,
   0x510e527fade682d1, 0x9b05688c2b3e6c1f, 0x1f83d9abfb41bd6b, 0x5be0cd19137e2179]

def schedule : List (List Nat) :=
  [[0, 1, 2, 3, 4, 5, 6, 7, 8, 9, 10, 11, 12, 13, 14, 15],
   [14, 10, 4, 8, 9, 15, 13, 6, 1, 12, 0, 2, 11, 7, 5, 3],
   [11, 8, 12, 0, 5, 2, 15, 13, 10, 14, 3, 6, 7, 1, 9, 4],
   [7, 9, 3, 1, 13, 12, 11, 14, 2, 6, 5, 10, 4, 0, 15, 8],
   [9, 0, 5, 7, 2, 4, 10, 15, 14, 1, 11, 12, 6, 8, 3, 13],
   [2, 12, 6, 10, 0, 11, 8, 3, 4, 13, 7, 5, 15, 14, 1, 9],
   [12, 5, 1, 15, 14, 13, 4, 10, 0, 7, 6, 3, 9, 2, 8, 11],
   [13, 11, 7, 14, 12, 1, 3, 9, 5, 0, 15, 4, 8, 6, 2, 10],
   [6, 15, 14, 9, 11, 3, 0, 8, 12, 2, 13, 7, 1, 4, 10, 5],
   [10, 2, 8, 4, 7, 6, 1, 5, 15, 11, 9, 14, 3, 12, 13, 0],
   [0, 1, 2, 3, 4, 5, 6, 7, 8, 9, 10, 11, 12, 13, 14, 15],
   [14, 10, 4, 8, 9, 15, 13, 6, 1, 12, 0, 2, 11, 7, 5, 3]]

def places : List (Nat × Nat × Nat × Nat) :=
  [(0, 4, 8, 12), (1, 5, 9, 13), (2, 6, 10, 14), (3, 7, 11, 15),
   (0, 5, 10, 15), (1, 6, 11, 12), (2, 7, 8, 13), (3, 4, 9, 14)]

def mix (v : Array UInt64) (place : Nat × Nat × Nat × Nat) (x y : UInt64) : Array UInt64 :=
  let (i, j, k, l) := place
  let a := v.getD i 0 + v.getD j 0 + x
  let d := rotateRight (v.getD l 0 ^^^ a) 32
  let c := v.getD k 0 + d
  let b := rotateRight (v.getD j 0 ^^^ c) 24
  let a := a + b + y
  let d := rotateRight (d ^^^ a) 16
  let c := c + d
  let b := rotateRight (b ^^^ c) 63
  (((v.setIfInBounds i a).setIfInBounds j b).setIfInBounds k c).setIfInBounds l d

def round (message : Array UInt64) (v : Array UInt64) (order : List Nat) : Array UInt64 :=
  (places.zipIdx).foldl (fun v (place, i) ↦
    mix v place (message.getD (order.getD (2 * i) 0) 0) (message.getD (order.getD (2 * i + 1) 0) 0)) v

/-- Takes one block into the state; `counted` is the number of message bytes up to its end. -/
def compress (h : List UInt64) (block : Bytes) (counted : Nat) (last : Bool) : List UInt64 :=
  let padded := block ++ List.replicate (128 - block.length) 0
  let message := ((padded.blocks 8).map fun b ↦ UInt64.ofNat (Bytes.toNat b.reverse)).toArray
  let v := (h ++ initialWords).toArray
  let v := v.setIfInBounds 12 (v.getD 12 0 ^^^ UInt64.ofNat counted)
  let v := if last then v.setIfInBounds 14 (~~~(v.getD 14 0)) else v
  let v := schedule.foldl (round message) v
  h.zipIdx.map fun (x, i) ↦ x ^^^ v.getD i 0 ^^^ v.getD (i + 8) 0

def absorb (h : List UInt64) (before : Nat) : List Bytes → List UInt64
  | [] => h
  | [block] => compress h block (before + block.length) true
  | block :: rest => absorb (compress h block (before + block.length) false)
      (before + block.length) rest

def digest (size : Nat) (message : Bytes) : Bytes :=
  let start := initialWords.zipIdx.map fun (w, i) ↦
    if i == 0 then w ^^^ UInt64.ofNat (0x01010000 + size) else w
  let blocks := if message.isEmpty then [[]] else message.blocks 128
  ((absorb start 0 blocks).flatMap fun w ↦ Bytes.littleEndian 8 w.toNat).take size

/-- Chains digests of 64 bytes, keeping half of each, until at most 64 bytes are missing. -/
def chain (missing : Nat) (link : Bytes) : Bytes :=
  if missing ≤ 64 then digest missing link
  else
    let next := digest 64 link
    next.take 32 ++ chain (missing - 32) next
termination_by missing

def long (size : Nat) (message : Bytes) : Bytes :=
  chain size (Bytes.littleEndian 4 size ++ message)

end Roster.Blake2b
