import Roster.Encoding.Bytes
import Roster.Text.Pieces

namespace Roster.Http

/-- The parts of a request target that requests are answered by. -/
structure Uri where
  path : String
  query : Option String
  deriving DecidableEq, Repr

namespace Uri

def isPathByte (b : UInt8) : Bool :=
  b == 0x21 || b == 0x22 || (0x24 ≤ b && b ≤ 0x3B) || b == 0x3D || (0x40 ≤ b && b ≤ 0x5F) ||
    (0x61 ≤ b && b ≤ 0x7E) || 0x7F ≤ b

def isQueryByte (b : UInt8) : Bool :=
  b == 0x21 || (0x24 ≤ b && b ≤ 0x3B) || b == 0x3D || 0x3F ≤ b

def pathAndQuery? (bytes : Bytes) : Option Uri := do
  let isMark := fun (b : UInt8) ↦ b == 0x3F || b == 0x23
  let path := bytes.takeWhile fun b ↦ !isMark b
  guard (path.all isPathByte)
  let query ← match bytes.dropWhile fun b ↦ !isMark b with
    | 0x3F :: rest =>
      let query := rest.takeWhile (· != 0x23)
      guard (query.all isQueryByte)
      pure (some (← Bytes.toText? query))
    | _ => pure none
  return ⟨← Bytes.toText? path, query⟩

def isAuthorityByte (b : UInt8) : Bool :=
  (Char.ofNat b.toNat).isAlphanum || (("!$&'()*+,-.:;=@[]_~".toList).contains (Char.ofNat b.toNat) && b < 0x80)

/-- What a scan of an authority has seen since the last user part or bracket. -/
structure AuthorityScan where
  colons : Nat := 0
  opened : Bool := false
  closed : Bool := false
  hasPercent : Bool := false
  endsInAt : Bool := false

def AuthorityScan.step (s : AuthorityScan) (b : UInt8) : Option AuthorityScan :=
  let s := { s with endsInAt := false }
  if b == 58 then if s.colons ≥ 8 then none else some { s with colons := s.colons + 1 }
  else if b == 91 then if s.hasPercent || s.opened then none else some { s with opened := true }
  else if b == 93 then
    if !s.opened || s.closed then none
    else some { s with closed := true, colons := 0, hasPercent := false }
  else if b == 64 then some { s with colons := 0, hasPercent := false, endsInAt := true }
  else if b == 37 then some { s with hasPercent := true }
  else if isAuthorityByte b then some s
  else none

def isAuthority (bytes : Bytes) : Bool :=
  match bytes.foldlM AuthorityScan.step {} with
  | some s => s.opened == s.closed && s.colons ≤ 1 && !s.endsInAt && !s.hasPercent
  | none => false

def isSchemeChar (c : Char) : Bool :=
  c.isAlphanum || c == '+' || c == '-' || c == '.'

def afterScheme? (bytes : Bytes) : Option Bytes :=
  let scheme := bytes.takeWhile fun b ↦ isSchemeChar (Char.ofNat b.toNat)
  match bytes.drop scheme.length with
  | 58 :: 47 :: 47 :: rest => if scheme.length ≤ 64 then some rest else none
  | _ => none

def ofText? (s : String) : Option Uri := do
  let bytes := Bytes.ofText s
  guard (1 ≤ bytes.length && bytes.length ≤ 65534)
  if bytes == [42] then return ⟨"*", none⟩
  if bytes.head? == some 47 then return (← pathAndQuery? bytes)
  match afterScheme? bytes with
  | some rest =>
    let isEnd := fun (b : UInt8) ↦ b == 47 || b == 63 || b == 35
    let authority := rest.takeWhile fun b ↦ !isEnd b
    guard (!authority.isEmpty && isAuthority authority)
    let u ← pathAndQuery? (rest.drop authority.length)
    return if u.path.isEmpty then { u with path := "/" } else u
  | none =>
    guard (isAuthority bytes)
    return ⟨"", none⟩

end Uri

end Roster.Http
