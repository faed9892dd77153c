import Roster.Binary64

namespace Roster.Settings

inductive Value where
  | null
  | bool (b : Bool)
  | int (n : Int)
  | float (x : Binary64)
  | text (s : String)
  | list (items : List Value)
  | table (entries : List (String × Value))
  deriving Repr

abbrev Table := List (String × Value)

namespace Value

def entries : Value → Table
  | table entries => entries
  | _ => []

def items : Value → List Value
  | list items => items
  | _ => []

def setEntry (name : String) (f : Option Value → Value) : Table → Table
  | [] => [(name, f none)]
  | (n, v) :: rest => if n == name then (n, f (some v)) :: rest else (n, v) :: setEntry name f rest

/-- Changes the value at an index; nulls fill the gap before a new one. -/
def setItem (f : Option Value → Value) : Nat → List Value → List Value
  | 0, [] => [f none]
  | 0, v :: rest => f (some v) :: rest
  | n + 1, [] => null :: setItem f n []
  | n + 1, v :: rest => v :: setItem f n rest

mutual

/-- Puts a value over another. Of two tables the entries are put over each other; everything else is
replaced. -/
def cover : Value → Option Value → Value
  | table entries, old => coverAll entries (old.getD (table []))
  | v, _ => v

def coverAll : Table → Value → Value
  | [], old => old
  | (name, v) :: rest, old => coverAll rest (table (setEntry name (cover v) old.entries))

end

/-- A step from a value to one inside it. -/
inductive Step where
  | name (s : String)
  | index (n : Nat)
  deriving DecidableEq, Repr

def coverAt (v : Value) : List Step → Option Value → Value
  | [], old => cover v old
  | [.index n], old => list (setItem (fun _ ↦ v) n ((old.map items).getD []))
  | .name s :: rest, old => table (setEntry s (coverAt v rest) ((old.map entries).getD []))
  | .index n :: rest, old => list (setItem (coverAt v rest) n ((old.map items).getD []))

end Value

end Roster.Settings
