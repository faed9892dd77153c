import Roster.Json

namespace Roster.Json

inductive Token where
  | openBracket
  | closeBracket
  | openBrace
  | closeBrace
  | comma
  | colon
  | null
  | bool (b : Bool)
  | number (n : Number)
  | string (s : Option String)
  /-- Bytes that start no token; nothing is read after them. -/
  | junk
  deriving DecidableEq, Repr

namespace Token

def byteIsDigit (b : UInt8) : Bool :=
  48 ≤ b && b ≤ 57

def isSpace (b : UInt8) : Bool :=
  b == 32 || b == 9 || b == 10 || b == 13

def unitOfHex? (bytes : Bytes) : Option Nat :=
  Hex.number? (bytes.map fun b ↦ Char.ofNat b.toNat)

def codeBytes (n : Nat) : Bytes :=
  (Bytes.ofText (String.singleton (Char.ofNat n))).reverse

def escaped? (b : UInt8) : Option UInt8 :=
  if b == 34 || b == 92 || b == 47 then some b
  else if b == 98 then some 8
  else if b == 102 then some 12
  else if b == 110 then some 10
  else if b == 114 then some 13
  else if b == 116 then some 9
  else none

/-- What a string scanner knows: a high surrogate that waits for its partner, whether the content
is text so far, and the content, last byte first. -/
structure Scan where
  high : Option Nat := none
  isText : Bool := true
  content : Bytes := []

def Scan.push (s : Scan) (bytes : Bytes) : Scan :=
  ⟨none, s.isText && s.high.isNone, bytes ++ s.content⟩

def Scan.unit (s : Scan) (n : Nat) : Scan :=
  if 0xD800 ≤ n && n < 0xDC00 then ⟨some n, s.isText && s.high.isNone, s.content⟩
  else if 0xDC00 ≤ n && n < 0xE000 then
    match s.high with
    | some h => ⟨none, s.isText, codeBytes (0x10000 + (h - 0xD800) * 0x400 + (n - 0xDC00)) ++ s.content⟩
    | none => { s with isText := false }
  else s.push (codeBytes n)

def Scan.result (s : Scan) : Option String :=
  if s.isText && s.high.isNone then Bytes.toText? s.content.reverse else none

def scanString (s : Scan) : Bytes → Option (Option String × Bytes)
  | [] => none
  | b :: rest =>
    if b == 34 then some (s.result, rest)
    else if b == 92 then
      match rest with
      | [] => none
      | e :: rest =>
        if e == 117 then
          match rest with
          | u₁ :: u₂ :: u₃ :: u₄ :: rest =>
            match unitOfHex? [u₁, u₂, u₃, u₄] with
            | some n => scanString (s.unit n) rest
            | none => none
          | _ => none
        else match escaped? e with
          | some c => scanString (s.push [c]) rest
          | none => none
    else if b < 32 then none
    else scanString (s.push [b]) rest

theorem scanString_length {s : Scan} {bytes rest : Bytes} {t : Option String}
    (h : scanString s bytes = some (t, rest)) : rest.length < bytes.length := by
  fun_induction scanString s bytes <;> simp_all <;> omega

def digits (bytes : Bytes) : Bytes × Bytes :=
  (bytes.takeWhile byteIsDigit, bytes.dropWhile byteIsDigit)

def valueOfDigits (bytes : Bytes) : Nat :=
  bytes.foldl (fun n b ↦ 10 * n + (b.toNat - 48)) 0

def classifyDecimal (x : Decimal) : Number :=
  match Binary64.ofDecimal x with
  | .finite .. => .decimal x
  | _ => .huge

def classify (isNegative : Bool) (n : Nat) : Number :=
  if isNegative then
    if n == 0 || n > 1 <<< 63 then classifyDecimal ⟨true, n, 0⟩ else .int (-(n : Int))
  else if n < UInt64.size then .int n
  else classifyDecimal ⟨false, n, 0⟩

def takeSign : Bytes → Bool × Bytes
  | 45 :: rest => (true, rest)
  | bytes => (false, bytes)

def takeFraction : Bytes → Bool × Bytes × Bytes
  | 46 :: rest => (true, digits rest)
  | bytes => (false, [], bytes)

/-- The mark of an exponent and its sign counted together, whether it is negative, and its digits. -/
def takeExponent : Bytes → Nat × Bool × Bytes
  | e :: rest =>
    if e == 101 || e == 69 then
      match rest with
      | 43 :: rest => (2, false, (digits rest).1)
      | 45 :: rest => (2, true, (digits rest).1)
      | rest => (1, false, (digits rest).1)
    else (0, false, [])
  | [] => (0, false, [])

def scanNumber (bytes : Bytes) : Option (Number × Nat) := do
  let (isNegative, bytes) := takeSign bytes
  let (whole, rest) := digits bytes
  guard (!whole.isEmpty && (whole.length == 1 || whole.head? != some 48))
  let (hasPoint, fraction, rest) := takeFraction rest
  guard (!hasPoint || !fraction.isEmpty)
  let (marks, isLowered, power) := takeExponent rest
  guard (marks == 0 || !power.isEmpty)
  let size := isNegative.toNat + whole.length + hasPoint.toNat + fraction.length + marks + power.length
  if hasPoint || marks != 0 then
    let exponent : Int := valueOfDigits power
    let exponent := (if isLowered then -exponent else exponent) - fraction.length
    return (classifyDecimal ⟨isNegative, valueOfDigits (whole ++ fraction), exponent⟩, size)
  else
    return (classify isNegative (valueOfDigits whole), size)

def mark? (b : UInt8) : Option Token :=
  if b == 91 then some openBracket
  else if b == 93 then some closeBracket
  else if b == 123 then some openBrace
  else if b == 125 then some closeBrace
  else if b == 44 then some comma
  else if b == 58 then some colon
  else none

def nextWord (b : UInt8) (rest : Bytes) : Token × Bytes :=
  if b == 110 && rest.take 3 == [117, 108, 108] then (null, rest.drop 3)
  else if b == 116 && rest.take 3 == [114, 117, 101] then (bool true, rest.drop 3)
  else if b == 102 && rest.take 4 == [97, 108, 115, 101] then (bool false, rest.drop 4)
  else (junk, [])

def next (b : UInt8) (rest : Bytes) : Token × Bytes :=
  match mark? b with
  | some t => (t, rest)
  | none =>
    if b == 34 then
      match scanString {} rest with
      | some (s, rest) => (string s, rest)
      | none => (junk, [])
    else if b == 45 || byteIsDigit b then
      match scanNumber (b :: rest) with
      | some (n, size) => (number n, rest.drop (size - 1))
      | none => (junk, [])
    else nextWord b rest

theorem next_length (b : UInt8) (rest : Bytes) : (next b rest).2.length ≤ rest.length := by
  have := @scanString_length {} rest
  grind [next, nextWord]

def ofBytes : Bytes → List Token
  | [] => []
  | b :: rest =>
    if isSpace b then ofBytes rest
    else (next b rest).1 :: ofBytes (next b rest).2
termination_by bytes => bytes.length
decreasing_by
  · simp
  · have := next_length b rest
    simp only [List.length_cons]
    omega

end Token

end Roster.Json
