import Roster.Digest.Blake2b

namespace Roster.Argon2

/-- Which blocks of memory a step refers to: always by content, never by content, or by content
after the first half of the first pass. -/
inductive Variant where
  | d
  | i
  | id
  deriving DecidableEq, Repr

def Variant.code : Variant → Nat
  | d => 0
  | i => 1
  | id => 2

/-- The older version overwrites memory in later passes, the newer one adds to it. -/
inductive Version where
  | v16
  | v19
  deriving DecidableEq, Repr

def Version.code : Version → Nat
  | v16 => 16
  | v19 => 19

structure Params where
  variant : Variant
  version : Version
  memory : Nat
  passes : Nat
  lanes : Nat
  size : Nat
  data : Bytes

/-- Sixteen words, one row or column of a block. -/
structure Row where
  w0 : UInt64
  w1 : UInt64
  w2 : UInt64
  w3 : UInt64
  w4 : UInt64
  w5 : UInt64
  w6 : UInt64
  w7 : UInt64
  w8 : UInt64
  w9 : UInt64
  w10 : UInt64
  w11 : UInt64
  w12 : UInt64
  w13 : UInt64
  w14 : UInt64
  w15 : UInt64

/-- A block of memory: 128 words in eight rows. -/
structure Block where
  r0 : Row
  r1 : Row
  r2 : Row
  r3 : Row
  r4 : Row
  r5 : Row
  r6 : Row
  r7 : Row

namespace Row

def zero : Row := ⟨0, 0, 0, 0, 0, 0, 0, 0, 0, 0, 0, 0, 0, 0, 0, 0⟩

def xor (x y : Row) : Row :=
  ⟨x.w0 ^^^ y.w0, x.w1 ^^^ y.w1, x.w2 ^^^ y.w2, x.w3 ^^^ y.w3, x.w4 ^^^ y.w4, x.w5 ^^^ y.w5,
   x.w6 ^^^ y.w6, x.w7 ^^^ y.w7, x.w8 ^^^ y.w8, x.w9 ^^^ y.w9, x.w10 ^^^ y.w10, x.w11 ^^^ y.w11,
   x.w12 ^^^ y.w12, x.w13 ^^^ y.w13, x.w14 ^^^ y.w14, x.w15 ^^^ y.w15⟩

def ofWords : List UInt64 → Row
  | [a, b, c, d, e, f, g, h, i, j, k, l, m, n, o, p] => ⟨a, b, c, d, e, f, g, h, i, j, k, l, m, n, o, p⟩
  | _ => zero

def words (x : Row) : List UInt64 :=
  [x.w0, x.w1, x.w2, x.w3, x.w4, x.w5, x.w6, x.w7, x.w8, x.w9, x.w10, x.w11, x.w12, x.w13, x.w14,
   x.w15]

@[inline] def addMul (x y : UInt64) : UInt64 :=
  x + y + 2 * (x &&& 0xffffffff) * (y &&& 0xffffffff)

@[inline] def rotateRight (x n : UInt64) : UInt64 :=
  (x >>> n) ||| (x <<< (64 - n))

@[inline] def quarter {α : Type} (a b c d : UInt64) (k : UInt64 → UInt64 → UInt64 → UInt64 → α) : α :=
  let a := addMul a b
  let d := rotateRight (d ^^^ a) 32
  let c := addMul c d
  let b := rotateRight (b ^^^ c) 24
  let a := addMul a b
  let d := rotateRight (d ^^^ a) 16
  let c := addMul c d
  let b := rotateRight (b ^^^ c) 63
  k a b c d

def permute (x : Row) : Row :=
  quarter x.w0 x.w4 x.w8 x.w12 fun a0 a4 a8 a12 ↦
  quarter x.w1 x.w5 x.w9 x.w13 fun a1 a5 a9 a13 ↦
  quarter x.w2 x.w6 x.w10 x.w14 fun a2 a6 a10 a14 ↦
  quarter x.w3 x.w7 x.w11 x.w15 fun a3 a7 a11 a15 ↦
  quarter a0 a5 a10 a15 fun b0 b5 b10 b15 ↦
  quarter a1 a6 a11 a12 fun b1 b6 b11 b12 ↦
  quarter a2 a7 a8 a13 fun b2 b7 b8 b13 ↦
  quarter a3 a4 a9 a14 fun b3 b4 b9 b14 ↦
  ⟨b0, b1, b2, b3, b4, b5, b6, b7, b8, b9, b10, b11, b12, b13, b14, b15⟩

end Row

namespace Block

def zero : Block :=
  ⟨.zero, .zero, .zero, .zero, .zero, .zero, .zero, .zero⟩

def xor (x y : Block) : Block :=
  ⟨x.r0.xor y.r0, x.r1.xor y.r1, x.r2.xor y.r2, x.r3.xor y.r3, x.r4.xor y.r4, x.r5.xor y.r5,
   x.r6.xor y.r6, x.r7.xor y.r7⟩

def mapRows (f : Row → Row) (x : Block) : Block :=
  ⟨f x.r0, f x.r1, f x.r2, f x.r3, f x.r4, f x.r5, f x.r6, f x.r7⟩

def transpose (x : Block) : Block where
  r0 := ⟨x.r0.w0, x.r0.w1, x.r1.w0, x.r1.w1, x.r2.w0, x.r2.w1, x.r3.w0, x.r3.w1,
         x.r4.w0, x.r4.w1, x.r5.w0, x.r5.w1, x.r6.w0, x.r6.w1, x.r7.w0, x.r7.w1⟩
  r1 := ⟨x.r0.w2, x.r0.w3, x.r1.w2, x.r1.w3, x.r2.w2, x.r2.w3, x.r3.w2, x.r3.w3,
         x.r4.w2, x.r4.w3, x.r5.w2, x.r5.w3, x.r6.w2, x.r6.w3, x.r7.w2, x.r7.w3⟩
  r2 := ⟨x.r0.w4, x.r0.w5, x.r1.w4, x.r1.w5, x.r2.w4, x.r2.w5, x.r3.w4, x.r3.w5,
         x.r4.w4, x.r4.w5, x.r5.w4, x.r5.w5, x.r6.w4, x.r6.w5, x.r7.w4, x.r7.w5⟩
  r3 := ⟨x.r0.w6, x.r0.w7, x.r1.w6, x.r1.w7, x.r2.w6, x.r2.w7, x.r3.w6, x.r3.w7,
         x.r4.w6, x.r4.w7, x.r5.w6, x.r5.w7, x.r6.w6, x.r6.w7, x.r7.w6, x.r7.w7⟩
  r4 := ⟨x.r0.w8, x.r0.w9, x.r1.w8, x.r1.w9, x.r2.w8, x.r2.w9, x.r3.w8, x.r3.w9,
         x.r4.w8, x.r4.w9, x.r5.w8, x.r5.w9, x.r6.w8, x.r6.w9, x.r7.w8, x.r7.w9⟩
  r5 := ⟨x.r0.w10, x.r0.w11, x.r1.w10, x.r1.w11, x.r2.w10, x.r2.w11, x.r3.w10, x.r3.w11,
         x.r4.w10, x.r4.w11, x.r5.w10, x.r5.w11, x.r6.w10, x.r6.w11, x.r7.w10, x.r7.w11⟩
  r6 := ⟨x.r0.w12, x.r0.w13, x.r1.w12, x.r1.w13, x.r2.w12, x.r2.w13, x.r3.w12, x.r3.w13,
         x.r4.w12, x.r4.w13, x.r5.w12, x.r5.w13, x.r6.w12, x.r6.w13, x.r7.w12, x.r7.w13⟩
  r7 := ⟨x.r0.w14, x.r0.w15, x.r1.w14, x.r1.w15, x.r2.w14, x.r2.w15, x.r3.w14, x.r3.w15,
         x.r4.w14, x.r4.w15, x.r5.w14, x.r5.w15, x.r6.w14, x.r6.w15, x.r7.w14, x.r7.w15⟩

def compress (x y : Block) : Block :=
  let sum := x.xor y
  sum.xor ((sum.mapRows Row.permute).transpose.mapRows Row.permute).transpose

def ofBytes (bytes : Bytes) : Block :=
  match (bytes.blocks 128).map fun row ↦ Row.ofWords ((row.blocks 8).map fun b ↦
    UInt64.ofNat (Bytes.toNat b.reverse)) with
  | [a, b, c, d, e, f, g, h] => ⟨a, b, c, d, e, f, g, h⟩
  | _ => zero

def words (x : Block) : List UInt64 :=
  [x.r0, x.r1, x.r2, x.r3, x.r4, x.r5, x.r6, x.r7].flatMap Row.words

def toBytes (x : Block) : Bytes :=
  x.words.flatMap fun w ↦ Bytes.littleEndian 8 w.toNat

end Block

namespace Params

def segment (p : Params) : Nat :=
  p.memory / (4 * p.lanes)

def lane (p : Params) : Nat :=
  4 * p.segment

def seed (p : Params) (password salt : Bytes) : Bytes :=
  let field := fun (bytes : Bytes) ↦ Bytes.littleEndian 4 bytes.length ++ bytes
  Blake2b.digest 64 ([p.lanes, p.size, p.memory, p.passes, p.version.code, p.variant.code].flatMap
    (Bytes.littleEndian 4) ++ field password ++ field salt ++ field [] ++ field p.data)

end Params

/-- The place of a segment: pass, quarter and lane. -/
structure Place where
  pass : Nat
  slice : Nat
  lane : Nat

/-- Whether the references of a segment do not depend on the memory. -/
def Place.isBlind (place : Place) : Variant → Bool
  | .d => false
  | .i => true
  | .id => place.pass == 0 && place.slice < 2

def blindNumbers (p : Params) (place : Place) : Array UInt64 :=
  let count := (p.segment + 127) / 128
  (List.range count).foldl (fun numbers i ↦
    let input := Block.mk (Row.ofWords ([place.pass, place.lane, place.slice, p.lane * p.lanes, p.passes,
      p.variant.code, i + 1, 0, 0, 0, 0, 0, 0, 0, 0, 0].map UInt64.ofNat))
      .zero .zero .zero .zero .zero .zero .zero
    numbers ++ (Block.zero.compress (Block.zero.compress input)).words.toArray) #[]

/-- The index in memory of the block that step `i` of a segment refers to. -/
def reference (p : Params) (place : Place) (i : Nat) (number : UInt64) : Nat :=
  let low := number.toNat % UInt32.size
  let lane := if place.pass == 0 && place.slice == 0 then place.lane else number.toNat / UInt32.size % p.lanes
  let finished := if place.pass == 0 then place.slice * p.segment else p.lane - p.segment
  let area := if lane == place.lane then finished + i - 1
    else if i == 0 then finished - 1 else finished
  let back := area * (low * low / UInt32.size) / UInt32.size
  let start := if place.pass == 0 || place.slice == 3 then 0 else (place.slice + 1) * p.segment
  lane * p.lane + (start + (area - 1 - back)) % p.lane

def fillSegment (p : Params) (memory : Array Block) (place : Place) : Array Block :=
  let blind := place.isBlind p.variant
  let numbers := if blind then blindNumbers p place else #[]
  let first := if place.pass == 0 && place.slice == 0 then 2 else 0
  (List.range' first (p.segment - first)).foldl (fun memory i ↦
    let here := place.lane * p.lane + place.slice * p.segment + i
    let before := if place.slice == 0 && i == 0 then here + p.lane - 1 else here - 1
    let previous := memory.getD before .zero
    let number := if blind then numbers.getD i 0 else previous.r0.w0
    let block := previous.compress (memory.getD (reference p place i number) .zero)
    let block := if place.pass == 0 || p.version == .v16 then block
      else block.xor (memory.getD here .zero)
    memory.setIfInBounds here block) memory

def fill (p : Params) (start : Array Block) : Array Block :=
  (List.range p.passes).foldl (fun memory pass ↦
    (List.range 4).foldl (fun memory slice ↦
      (List.range p.lanes).foldl (fun memory lane ↦ fillSegment p memory ⟨pass, slice, lane⟩) memory)
      memory) start

def hash (p : Params) (password salt : Bytes) : Bytes :=
  let seed := p.seed password salt
  let first := fun (lane i : Nat) ↦
    Block.ofBytes (Blake2b.long 1024 (seed ++ Bytes.littleEndian 4 i ++ Bytes.littleEndian 4 lane))
  let start := (List.range p.lanes).foldl (fun memory lane ↦
    (memory.setIfInBounds (lane * p.lane) (first lane 0)).setIfInBounds (lane * p.lane + 1)
      (first lane 1)) (Array.replicate (p.lane * p.lanes) .zero)
  let memory := fill p start
  let last := (List.range p.lanes).foldl (fun sum lane ↦
    sum.xor (memory.getD (lane * p.lane + p.lane - 1) .zero)) Block.zero
  Blake2b.long p.size last.toBytes

end Roster.Argon2
