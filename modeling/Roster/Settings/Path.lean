import Roster.Settings.Value
import Roster.Text.Scan

namespace Roster.Settings

open Text

abbrev Path := List Value.Step

namespace Path

def isNameChar (c : Char) : Bool :=
  c.isAlphanum || c == '_' || c == '-' || c == ' '

def name : Scan Value.Step := do
  return .name (String.ofList (← Scan.run₁ isNameChar))

def index : Scan Value.Step :=
  Scan.between (Scan.char '[')
    (do
      let blanks := Scan.run fun c ↦ c == ' ' || c == '\t'
      let _ ← blanks
      let digits ← Scan.run₁ isDigit
      let _ ← blanks
      guard (ofDigits digits < 1 <<< 63)
      return .index (ofDigits digits))
    (Scan.char ']')

def scan : Scan Path := do
  return (← name) :: (← Scan.many ((do Scan.char '.'; name) <|> index))

/-- The path that a key stands for; one that is not written like a path is a name. -/
def ofKey (key : String) : Path :=
  (Scan.all scan key.toList).getD [.name key]

end Path

def Value.coverByKeys (entries : Table) (old : Value) : Value :=
  entries.foldl (fun old e ↦ coverAt e.2 (Path.ofKey e.1) (some old)) old

end Roster.Settings
