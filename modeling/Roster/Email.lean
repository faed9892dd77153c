import Roster.Email.Address
import Roster.Email.International

namespace Roster.Email

open Text

/-- A letter or digit. Two letters outside ASCII fold to `k` and `s` and count as such. -/
def isAlnum (c : Char) : Bool :=
  c.isAlphanum || c == '\u212A' || c == 'ſ'

def isLocal (c : Char) : Bool :=
  isAlnum c || ".!#$%&'*+/=?^_`\x7b|\x7d~-".toList.contains c

def isLabel (cs : List Char) : Bool :=
  1 ≤ cs.length && cs.length ≤ 63 && cs.all (fun c ↦ isAlnum c || c == '-') &&
    cs.head? != some '-' && cs.getLast? != some '-'

def isHostName (cs : List Char) : Bool :=
  (splitAll (· == '.') cs).all isLabel

def isLiteral (cs : List Char) : Bool :=
  match cs.getLast?, splitLast (· == '[') cs.dropLast with
  | some ']', some (_, address) =>
    address.all (fun c ↦ (Hex.value? c).isSome || c == ':' || c == '.') && isAddress address
  | _, _ => false

def isPlainDomain (cs : List Char) : Bool :=
  isHostName cs || isLiteral cs

/-- A domain whose ASCII form is one counts as well. -/
def isDomain (cs : List Char) : Bool :=
  isPlainDomain cs || ((International.toAscii? cs).map isPlainDomain).getD false

/-- Up to 64 characters, the last at sign, and a domain of up to 255 characters. -/
def isValid (s : String) : Bool :=
  match splitLast (· == '@') s.toList with
  | none => false
  | some (name, domain) =>
    name.length ≤ 64 && domain.length ≤ 255 && !name.isEmpty && name.all isLocal &&
      isDomain domain

end Roster.Email
