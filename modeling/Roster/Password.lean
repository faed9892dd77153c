import Roster.Digest.Argon2
import Roster.Encoding.Base64
import Roster.Fault
import Roster.Text.Pieces

namespace Roster

/-- A way to hash passwords and to check them against hashes. -/
structure Hasher where
  hash : String → Except Fault String
  verify : (password hash : String) → Bool

namespace PasswordHash

open Text

structure Parts where
  algorithm : String
  version : Option Nat
  params : List (String × String)
  salt : Option String
  digest : Option Bytes

def isNameChar (c : Char) : Bool :=
  isLowerAlnum c || c == '-'

def isValueChar (c : Char) : Bool :=
  c.isAlphanum || c == '/' || c == '+' || c == '.' || c == '-'

def isName (cs : List Char) : Bool :=
  1 ≤ cs.length && cs.length ≤ 32 && cs.all isNameChar

def isValue (cs : List Char) : Bool :=
  cs.length ≤ 64 && cs.all isValueChar

def number? (cs : List Char) : Option Nat := do
  let n ← natOfDigits? cs
  guard (cs.length == 1 || cs.head? != some '0')
  guard (n < UInt32.size)
  return n

def param? (cs : List Char) : Option (String × String) :=
  match splitAll (· == '=') cs with
  | [name, value] =>
    if isName name && isValue value then some (String.ofList name, String.ofList value) else none
  | _ => none

def params? (cs : List Char) : Option (List (String × String)) :=
  if cs.length ≤ 127 then (splitAll (· == ',') cs).mapM param? else none

def digest? (cs : List Char) : Option Bytes := do
  let bytes ← Base64.decode? .standardUnpadded cs
  guard (10 ≤ bytes.length && bytes.length ≤ 64)
  return bytes

def salt? (cs : List Char) : Option String :=
  if 4 ≤ cs.length && isValue cs then some (String.ofList cs) else none

/-- Reads what follows the algorithm in `$argon2id$v=19$m=19456,t=2,p=1$salt$digest`; each part may be
left out. -/
def parts? (s : String) : Option Parts := do
  let [] :: algorithm :: fields := splitAll (· == '$') s.toList | none
  guard (isName algorithm)
  let (version, fields) ← match fields with
    | ('v' :: '=' :: digits) :: rest =>
      if digits.contains ',' then pure (none, fields)
      else do
        guard (isValue digits)
        pure (some (← number? digits), rest)
    | _ => pure (none, fields)
  let (params, fields) ← match fields with
    | field :: rest => if field.contains '=' then do pure (← params? field, rest) else pure ([], fields)
    | [] => pure ([], [])
  let (salt, fields) ← match fields with
    | field :: rest => do pure (some (← salt? field), rest)
    | [] => pure (none, [])
  let (digest, fields) ← match fields with
    | field :: rest => do pure (some (← digest? field), rest)
    | [] => pure (none, [])
  guard fields.isEmpty
  return ⟨String.ofList algorithm, version, params, salt, digest⟩

def defaultParams : Argon2.Params :=
  ⟨.id, .v19, 19456, 2, 1, 32, []⟩

def variant? : String → Option Argon2.Variant
  | "argon2d" => some .d
  | "argon2i" => some .i
  | "argon2id" => some .id
  | _ => none

def version? : Nat → Option Argon2.Version
  | 16 => some .v16
  | 19 => some .v19
  | _ => none

def withParam (p : Argon2.Params) (param : String × String) : Option Argon2.Params := do
  let digits := param.2.toList
  match param.1 with
  | "m" => return { p with memory := (← number? digits) }
  | "t" => return { p with passes := (← number? digits) }
  | "p" => return { p with lanes := (← number? digits) }
  | "keyid" => do
    guard ((← Base64.decode? .standardUnpadded digits).length ≤ 8)
    return p
  | "data" => do
    let data ← Base64.decode? .standardUnpadded digits
    guard (data.length ≤ 32)
    return { p with data := data }
  | _ => none

/-- The costs that a hash names, if they are within bounds. -/
def costs? (parts : Parts) (digest : Bytes) : Option Argon2.Params := do
  let base := { defaultParams with size := digest.length }
  let p ← parts.params.foldlM withParam base
  guard (8 ≤ p.memory && 1 ≤ p.passes && 1 ≤ p.lanes && p.lanes < 1 <<< 24 && 8 * p.lanes ≤ p.memory)
  let variant ← variant? parts.algorithm
  let version ← match parts.version with
    | some n => version? n
    | none => some .v19
  return { p with variant := variant, version := version }

def verify (password hash : String) : Bool :=
  let checked : Option Bool := do
    let parts ← parts? hash
    let digest ← parts.digest
    let p ← costs? parts digest
    let salt ← Base64.ofText? .standardUnpadded (← parts.salt)
    guard (8 ≤ salt.length)
    return Argon2.hash p (Bytes.ofText password) salt == digest
  checked.getD false

def text (password : String) (salt : Bytes) : String :=
  let p := defaultParams
  let digest := Argon2.hash p (Bytes.ofText password) salt
  s!"$argon2id$v=19$m={p.memory},t={p.passes},p={p.lanes}$" ++
    Base64.text .standardUnpadded salt ++ "$" ++ Base64.text .standardUnpadded digest

end PasswordHash

def Hasher.argon2 (salt : Bytes) : Hasher where
  hash password := .ok (PasswordHash.text password salt)
  verify := PasswordHash.verify

end Roster
