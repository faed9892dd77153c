import Roster.Settings.Value

namespace Roster.Toml

open Settings (Value)

inductive Origin where
  | explicit
  | implied
  | dotted
  deriving DecidableEq, Repr

inductive Node where
  | value (v : Value)
  | table (origin : Origin) (entries : List (String × Node))
  | tables (items : List (List (String × Node)))

abbrev Entries := List (String × Node)

namespace Node

def change (name : String) (f : Option Node → Option Node) : Entries → Option Entries
  | [] => (f none).map fun n ↦ [(name, n)]
  | (k, n) :: rest =>
    if k == name then (f (some n)).map fun n ↦ (k, n) :: rest
    else (change name f rest).map ((k, n) :: ·)

/-- Changes the entries of the table that a path of names leads to. Tables that are missing get the
origin `made`; a table that is there may be entered if `mayEnter`. Repeated headings stand for the
last of their tables. The change is told the origin of the table. -/
def descend (made : Origin) (mayEnter : Origin → Bool)
    (f : Origin → Entries → Option Entries) : List String → Origin → Entries → Option Entries
  | [], origin, entries => f origin entries
  | name :: rest, _, entries =>
    change name (fun
      | none => (descend made mayEnter f rest made []).map (.table made)
      | some (.value _) => none
      | some (.table origin inner) =>
        if mayEnter origin then (descend made mayEnter f rest origin inner).map (.table origin)
        else none
      | some (.tables (inner :: before)) =>
        (descend made mayEnter f rest .explicit inner).map fun inner ↦ .tables (inner :: before)
      | some (.tables []) => none) entries

/-- Puts a value at a dotted key. The last table on its way has to be one of dotted keys, unless the
key is a single name. -/
def insert (path : List String) (name : String) (v : Value) (origin : Origin) (entries : Entries) :
    Option Entries :=
  descend .dotted (· != .explicit) (fun origin entries ↦
    if (origin == .dotted) == path.isEmpty then none
    else change name (fun | none => some (.value v) | some _ => none) entries) path origin entries

def openTable (path : List String) (name : String) (entries : Entries) : Option Entries :=
  descend .implied (fun _ ↦ true) (fun _ ↦ change name fun
    | none => some (.table .explicit [])
    | some (.table .implied inner) => some (.table .explicit inner)
    | some _ => none) path .explicit entries

def openItem (path : List String) (name : String) (entries : Entries) : Option Entries :=
  descend .implied (fun _ ↦ true) (fun _ ↦ change name fun
    | none => some (.tables [[]])
    | some (.tables items) => some (.tables ([] :: items))
    | some _ => none) path .explicit entries

mutual

def toValue : Node → Value
  | value v => v
  | table _ entries => .table (toValues entries)
  | tables items => .list (toItems items)

def toValues : Entries → Settings.Table
  | [] => []
  | (name, n) :: rest => (name, toValue n) :: toValues rest

def toItems : List Entries → List Value
  | [] => []
  | entries :: rest => toItems rest ++ [.table (toValues entries)]

end

end Node

end Roster.Toml
