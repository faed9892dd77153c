import Roster.Binary64
import Roster.Encoding.Hex

namespace Roster

/-- A number as a reader classes it: an integer of at most 64 bits, any other number, or one beyond
what floating point holds. -/
inductive Json.Number where
  | int (n : Int)
  | decimal (x : Decimal)
  | huge
  deriving DecidableEq, Repr, Inhabited

/-- JSON values. Two more cases stand for text that cannot be read: `garbled` is a string that is
not Unicode text, which matters only to who wants its value, and `broken` is the place where the
text stops being JSON. -/
inductive Json where
  | null
  | bool (b : Bool)
  | number (n : Json.Number)
  | text (s : String)
  | array (items : List Json)
  | object (entries : List (String × Json))
  | garbled
  | broken
  deriving Repr, Inhabited

namespace Json

def int (n : Int) : Json :=
  .number (.int n)

def nat (n : Nat) : Json :=
  .number (.int n)

def record (entries : List (String × Option Json)) : Json :=
  .object (entries.filterMap fun e ↦ e.2.map (e.1, ·))

def escape (c : Char) : List Char :=
  if c = '"' then ['\\', '"']
  else if c = '\\' then ['\\', '\\']
  else if c = '\x08' then ['\\', 'b']
  else if c = '\x0c' then ['\\', 'f']
  else if c = '\n' then ['\\', 'n']
  else if c = '\r' then ['\\', 'r']
  else if c = '\t' then ['\\', 't']
  else if c.toNat < 32 then
    ['\\', 'u', '0', '0', Hex.digit (c.toNat / 16), Hex.digit (c.toNat % 16)]
  else [c]

def quote (s : String) : List Char :=
  '"' :: s.toList.flatMap escape ++ ['"']

mutual

def chars : Json → List Char
  | null => "null".toList
  | bool true => "true".toList
  | bool false => "false".toList
  | number (.int n) => (toString n).toList
  | number _ => "null".toList
  | text s => quote s
  | array items => '[' :: charsOfItems items ++ [']']
  | object entries => '{' :: charsOfEntries entries ++ ['}']
  | garbled => "null".toList
  | broken => "null".toList

def charsOfItems : List Json → List Char
  | [] => []
  | [j] => chars j
  | j :: rest => chars j ++ ',' :: charsOfItems rest

def charsOfEntries : List (String × Json) → List Char
  | [] => []
  | [(k, j)] => quote k ++ ':' :: chars j
  | (k, j) :: rest => quote k ++ ':' :: (chars j ++ ',' :: charsOfEntries rest)

end

def compact (j : Json) : String :=
  String.ofList j.chars

end Json

end Roster
