import Roster.Encoding.Hex

namespace Roster.Metrics

def dropHex? : Nat → List Char → Option (List Char)
  | 0, cs => some cs
  | _ + 1, [] => none
  | n + 1, c :: cs => if Hex.isLower c then dropHex? n cs else none

def dropHyphen? : List Char → Option (List Char)
  | '-' :: cs => some cs
  | _ => none

/-- What is left after an identifier: 8, 4, 4, 4 and 12 digits, joined by hyphens. -/
def dropUuid? (cs : List Char) : Option (List Char) := do
  let cs ← dropHex? 8 cs
  let cs ← dropHex? 4 (← dropHyphen? cs)
  let cs ← dropHex? 4 (← dropHyphen? cs)
  let cs ← dropHex? 4 (← dropHyphen? cs)
  dropHex? 12 (← dropHyphen? cs)

def uuidLength : Nat := 36

/-- Replaces identifiers from left to right. The number says how many characters to pass over. -/
def replaceUuids : Nat → List Char → List Char
  | _, [] => []
  | n + 1, _ :: cs => replaceUuids n cs
  | 0, c :: cs =>
    if (dropUuid? (c :: cs)).isSome then "\x7bid\x7d".toList ++ replaceUuids (uuidLength - 1) cs
    else c :: replaceUuids 0 cs

/-- The longest start of at most `bound` bytes. -/
def takeBytes : Nat → List Char → List Char
  | _, [] => []
  | bound, c :: cs => if c.utf8Size ≤ bound then c :: takeBytes (bound - c.utf8Size) cs else []

def maxLabel : Nat := 50

def pathLabel (path : String) : String :=
  String.ofList (takeBytes maxLabel (replaceUuids 0 path.toList))

end Roster.Metrics
