import Roster.Email.HostData
import Roster.Email.Punycode
import Roster.Text.Lowercase

namespace Roster.Email.International

open Text

def isAscii (c : Char) : Bool :=
  c.toNat < 128

def isIgnored (c : Char) : Bool :=
  inRanges [(173, 173), (847, 847), (4447, 4448), (6068, 6069), (6155, 6159), (8203, 8203),
    (8288, 8292), (8298, 8303), (12644, 12644), (65024, 65039), (65279, 65279), (65440, 65440),
    (113824, 113827), (119155, 119162), (917760, 917999)] c

def isFullStop (c : Char) : Bool :=
  c == '。' || c == '．' || c == '｡' || c == '․'

def plain (c : Char) : Char :=
  if isFullStop c then '.'
  else if 0xFF01 ≤ c.toNat && c.toNat ≤ 0xFF5E then (Char.ofNat (c.toNat - 0xFEE0)).toLower
  else c

def prepare (cs : List Char) : List Char :=
  (lowercase (String.ofList (cs.filter (!isIgnored ·)))).toList.map plain

def isMark (c : Char) : Bool :=
  inRanges marks c

/-- Whether a joiner may stand after `before`, whose nearest character comes first. One that keeps
letters apart may also stand between letters that would join. -/
def mayJoin (joiner : Char) (before after : List Char) : Bool :=
  match before with
  | [] => false
  | c :: _ =>
    inRanges viramas c || (joiner == '\u200C' &&
      ((before.dropWhile isMark).head?.map (inRanges joiningNext)).getD false &&
      ((after.dropWhile isMark).head?.map (inRanges joiningPrevious)).getD false)

def joinsWell : List Char → List Char → Bool
  | _, [] => true
  | before, c :: after =>
    ((c != '\u200C' && c != '\u200D') || mayJoin c before after) && joinsWell (c :: before) after

def isWellFormed (label : List Char) : Bool :=
  label.all (fun c ↦ isAscii c || inRanges standing c) &&
    !(label.head?.map isMark).getD false && joinsWell [] label

inductive Direction where
  | leftToRight
  | rightToLeft
  | europeanNumber
  | arabicNumber
  | mark
  | neutral
  deriving DecidableEq, Repr

def Direction.of (c : Char) : Direction :=
  if isDigit c || inRanges europeanNumbers c then europeanNumber
  else if isAscii c then if c.isAlpha then leftToRight else neutral
  else if inRanges arabicNumbers c then arabicNumber
  else if isMark c then mark
  else if inRanges neutrals c then neutral
  else if inRanges rightToLeftLetters c then rightToLeft
  else leftToRight

/-- Whether the directions in a label agree. A label runs one way, its first and last characters show
which, and one from right to left holds numbers of one sort. -/
def agree (directions : List Direction) : Bool :=
  let last := (directions.reverse.dropWhile (· == .mark)).head?
  match directions.head? with
  | none => true
  | some .leftToRight =>
    directions.all (fun d ↦ d != .rightToLeft && d != .arabicNumber) &&
      (last == some .leftToRight || last == some .europeanNumber)
  | some .rightToLeft =>
    directions.all (· != .leftToRight) && last != some .neutral &&
      !(directions.contains .europeanNumber && directions.contains .arabicNumber)
  | _ => false

def meaning? (label : List Char) : Option (List Char) :=
  match dropPrefix? "xn--".toList label with
  | some code =>
    if label.all isAscii then
      (Punycode.decode? code).filter fun cs ↦
        !cs.all isAscii && cs == prepare cs
    else some label
  | none => some label

def asciiLabel (label : List Char) : List Char :=
  if label.all isAscii then label else "xn--".toList ++ Punycode.encode label

/-- The ASCII form of a host name, if its characters may stand where they do. -/
def toAscii? (cs : List Char) : Option (List Char) := do
  let labels := splitAll (· == '.') (prepare cs)
  let meanings ← labels.mapM meaning?
  guard (meanings.all isWellFormed)
  let directions := meanings.map (·.map Direction.of)
  let isMixed := directions.any fun l ↦ l.contains .rightToLeft || l.contains .arabicNumber
  guard (!isMixed || directions.all agree)
  return ['.'].intercalate (labels.map asciiLabel)

end Roster.Email.International
