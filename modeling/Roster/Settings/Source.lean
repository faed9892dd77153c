import Roster.Json.Reader
import Roster.Settings.Environment
import Roster.Settings.Path
import Roster.Toml.Document

namespace Roster.Settings

open Text

inductive Misuse where
  | unreadable
  | wrongType
  | wrongShape
  deriving DecidableEq, Repr

mutual

def ofJson : Nat → Json → Option Value
  | _, .null => some .null
  | _, .bool b => some (.bool b)
  | _, .number (.int n) =>
    some (if n ≤ Int64.maxValue.toInt then .int n else .float (.ofDecimal ⟨false, n.toNat, 0⟩))
  | _, .number (.decimal x) => some (.float (.ofDecimal x))
  | _, .text s => some (.text s)
  | depth + 1, .array items => (ofItems depth items).map .list
  | depth + 1, .object entries => (ofEntries depth entries).map .table
  | _, _ => none

def ofItems : Nat → List Json → Option (List Value)
  | _, [] => some []
  | depth, j :: rest => do return (← ofJson depth j) :: (← ofItems depth rest)

def ofEntries : Nat → List (String × Json) → Option Table
  | _, [] => some []
  | depth, (name, j) :: rest => do
    let v ← ofJson depth j
    return Value.setEntry name (fun later ↦ later.getD v) (← ofEntries depth rest)

end

def jsonDepth : Nat := 127

def ofJsonText? (s : String) : Option Table := do
  let document := Json.read (Bytes.ofText s)
  guard !document.hasMore
  match ← ofJson jsonDepth document.root with
  | .table entries => some entries
  | _ => none

mutual

def lowerNames : Value → Value
  | .list items => .list (lowerItems items)
  | .table entries => .table (lowerEntries entries)
  | v => v

def lowerItems : List Value → List Value
  | [] => []
  | v :: rest => lowerNames v :: lowerItems rest

def lowerEntries : Table → Table
  | [] => []
  | (name, v) :: rest => (lowercase name, lowerNames v) :: lowerEntries rest

end

def formats : List (String × (String → Option Table)) :=
  [(".toml", Toml.Document.ofText?), (".json", ofJsonText?)]

/-- The settings of the first file of a name, whatever its format; without one there are none. A file
without an ending is not read and hides the others. -/
def ofFiles (files : List (String × String)) (name : String) : Except Misuse Table :=
  let isHidden := (files.lookup name).isSome
  let found := formats.findSome? fun (ending, read) ↦
    (files.lookup (name ++ ending)).map fun text ↦ (read text).map lowerEntries
  match if isHidden then none else found with
  | none => .ok []
  | some (some entries) => .ok entries
  | some none => .error .unreadable

def gather (files environment : List (String × String)) : Except Misuse Value := do
  let default ← ofFiles files "default"
  let «local» ← ofFiles files "local"
  return [default, «local», Environment.settings environment].foldl
    (fun all entries ↦ Value.coverByKeys entries all) (.table [])

end Roster.Settings
