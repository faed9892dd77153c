import Roster.Encoding.Hex
import Roster.Text.Pieces

namespace Roster.Email

open Text

def isOctet (cs : List Char) : Bool :=
  match natOfDigits? cs with
  | some n => n ≤ 255 && (cs.length == 1 || cs.head? != some '0')
  | none => false

def isIPv4 (cs : List Char) : Bool :=
  let parts := splitAll (· == '.') cs
  parts.length == 4 && parts.all isOctet

def isGroup (cs : List Char) : Bool :=
  1 ≤ cs.length && cs.length ≤ 4 && cs.all fun c ↦ (Hex.value? c).isSome

def groups? (mayEndInIPv4 : Bool) (cs : List Char) : Option Nat :=
  if cs.isEmpty then some 0
  else
    let parts := splitAll (· == ':') cs
    if parts.all isGroup then some parts.length
    else if mayEndInIPv4 && (parts.dropLast.all isGroup) && isIPv4 (parts.getLastD []) then
      some (parts.length + 1)
    else none

def splitDoubleColon : List Char → Option (List Char × List Char)
  | ':' :: ':' :: rest => some ([], rest)
  | c :: rest => (splitDoubleColon rest).map fun r ↦ (c :: r.1, r.2)
  | [] => none

def isIPv6 (cs : List Char) : Bool :=
  match splitDoubleColon cs with
  | none => groups? true cs == some 8
  | some (head, tail) =>
    match groups? false head, groups? true tail with
    | some m, some n => m + n ≤ 7
    | _, _ => false

def isAddress (cs : List Char) : Bool :=
  isIPv4 cs || isIPv6 cs

end Roster.Email
