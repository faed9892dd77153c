import Roster.Encoding.Bytes
import Roster.Text.Pieces

namespace Roster.Http

def isTokenChar (c : Char) : Bool :=
  c.isAlphanum || "!#$%&'*+-.^_`|~".toList.contains c

structure Method where
  name : String
  deriving DecidableEq, Repr

def Method.ofText? (s : String) : Option Method :=
  if s != "" && s.toList.all isTokenChar then some ⟨s⟩ else none

/-- A header field; its name is in lower case. -/
structure Header where
  name : String
  value : Bytes
  deriving DecidableEq, Repr

abbrev Headers := List Header

namespace Header

def isValueByte (b : UInt8) : Bool :=
  (32 ≤ b && b != 127) || b == 9

def ofParts? (name : String) (value : Bytes) : Option Header :=
  let isName := name != "" && name.toList.all isTokenChar && name.length ≤ 65535
  if isName && value.all isValueByte then
    some ⟨String.ofList (name.toList.map Char.toLower), value⟩
  else none

def text? (h : Header) : Option String :=
  if h.value.all fun b ↦ (32 ≤ b && b < 127) || b == 9 then
    some (String.ofList (h.value.map fun b ↦ Char.ofNat b.toNat))
  else none

end Header

namespace Headers

/-- Adds a field; fields of one name stand together, where the first of them stands. -/
def add (headers : Headers) (h : Header) : Headers :=
  let before := headers.takeWhile (·.name != h.name)
  let after := headers.dropWhile (·.name != h.name)
  before ++ after.takeWhile (·.name == h.name) ++ [h] ++ after.dropWhile (·.name == h.name)

def get? (headers : Headers) (name : String) : Option Header :=
  headers.find? (·.name == name)

end Headers

end Roster.Http
