import Roster.Toml.Scalar
import Roster.Toml.Tree

namespace Roster.Toml

open Settings (Value)
open Text

def assignment (value : Scan Value) : Scan (List String × Value) := do
  let names ← key
  Scan.char '='
  blanks
  return (names, ← value)

def array (value : Scan Value) : Scan Value := do
  Scan.char '['
  space
  let items ← Scan.optional (do
    let items ← Scan.separated (Scan.between space value space) (Scan.char ',')
    discard (Scan.optional (Scan.char ','))
    space
    return items)
  Scan.char ']'
  return .list (items.getD [])

def insertAll (entries : Entries) (l : List (List String × Value)) : Option Entries :=
  l.foldlM (fun entries (names, v) ↦
    Node.insert names.dropLast (names.getLastD "") v .explicit entries) entries

def inlineTable (value : Scan Value) : Scan Value := do
  Scan.char '\x7b'
  let l ← Scan.optional (Scan.separated
    (do
      let a ← assignment value
      blanks
      return a)
    (Scan.char ','))
  blanks
  Scan.char '\x7d'
  let entries ← insertAll [] (l.getD [])
  return (Node.table .explicit entries).toValue

def valueUpTo : Nat → Scan Value
  | 0 => scalar
  | n + 1 => scalar <|> array (valueUpTo n) <|> inlineTable (valueUpTo n)

def value : Scan Value :=
  valueUpTo (depthLimit - 1)

inductive Line where
  | nothing
  | heading (names : List String)
  | repeated (names : List String)
  | assigned (names : List String) (v : Value)

def line : Scan Line := do
  blanks
  let l ← (do return .repeated (← Scan.between (Scan.word "[[") key (Scan.word "]]"))) <|>
    (do return .heading (← Scan.between (Scan.char '[') key (Scan.char ']'))) <|>
    (do let (names, v) ← assignment value; return .assigned names v) <|>
    pure .nothing
  lineEnd
  return l

def lines : Scan (List Line) := do
  discard (Scan.optional (Scan.char '\ufeff'))
  let l ← Scan.many (do
    let before ← getThe (List Char)
    guard (!before.isEmpty)
    line)
  Scan.atEnd
  return l

/-- A document as far as it has been read: its tables, and the heading that its lines stand under. -/
structure Document where
  root : Entries := []
  heading : List String := []

namespace Document

/-- Takes in a line, unless it contradicts those before it. -/
def step (d : Document) : Line → Option Document
  | .nothing => some d
  | .heading names => do
    return ⟨← Node.openTable names.dropLast (names.getLastD "") d.root, names⟩
  | .repeated names => do
    return ⟨← Node.openItem names.dropLast (names.getLastD "") d.root, names⟩
  | .assigned names v => do
    let root ← Node.descend .implied (fun _ ↦ true)
      (fun _ entries ↦ insertAll entries [(names, v)]) d.heading .explicit d.root
    return { d with root := root }

def ofText? (s : String) : Option Settings.Table := do
  let ls ← Scan.all lines s.toList
  let d ← ls.foldlM step {}
  return Node.toValues d.root

end Document

end Roster.Toml
