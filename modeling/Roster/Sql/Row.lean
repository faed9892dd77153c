import Roster.Sql.Statement

namespace Roster.Sql

/-- A way to read cells: the types of columns it applies to, and what it makes of their values. -/
structure Cell (α : Type) where
  accepts : ColumnType → Value → Bool
  decode : Value → Option α

namespace Cell

def text : Cell String where
  accepts type _ := type == .text || type == .varchar
  decode
    | .text s => some s
    | _ => none

def bool : Cell Bool where
  accepts type _ := type == .bool
  decode
    | .bool b => some b
    | _ => none

def int : Cell Int where
  accepts type _ := type == .int8
  decode
    | .int n => some n
    | _ => none

def time : Cell Timestamp where
  accepts type _ := type == .timestamptz
  decode
    | .time t => some t
    | _ => none

def nullable {α : Type} (c : Cell α) : Cell (Option α) where
  accepts type v := v == .null || c.accepts type v
  decode
    | .null => some none
    | v => (c.decode v).map some

end Cell

namespace Row

variable {α : Type}

def cells (r : Row) : List (Column × Value) :=
  r.columns.zip r.values

def read (c : Cell α) (column : String) (cell : Column × Value) : Except Trouble α :=
  match if c.accepts cell.1.type cell.2 then c.decode cell.2 else none with
  | some a => .ok a
  | none => .error (.undecodable column)

def get (r : Row) (c : Cell α) (name : String) : Except Trouble α :=
  match r.cells.reverse.find? (·.1.name == name) with
  | some cell => read c ("\"" ++ name ++ "\"") cell
  | none => .error (.noColumn name)

def first (r : Row) (c : Cell α) : Except Trouble α :=
  match r.cells with
  | cell :: _ => read c "0" cell
  | [] => .error (.outOfBounds 0 0)

end Row

end Roster.Sql
