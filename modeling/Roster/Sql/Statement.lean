import Roster.Dialogue
import Roster.Timestamp

namespace Roster.Sql

inductive Value where
  | null
  | text (s : String)
  | bool (b : Bool)
  | int (n : Int)
  | time (t : Timestamp)
  deriving DecidableEq, Repr

inductive ColumnType where
  | text
  | varchar
  | bool
  | int8
  | timestamptz
  deriving DecidableEq, Repr

structure Column where
  name : String
  type : ColumnType
  deriving DecidableEq, Repr

structure Row where
  columns : List Column
  values : List Value
  deriving Repr

/-- What is sent. Parameters are written `$1`, `$2` and so on. -/
inductive Statement where
  | query (sql : String) (args : List Value)
  | script (sql : String)
  | begin
  | commit
  | rollback
  deriving DecidableEq, Repr

def Statement.sql : Statement → String
  | query s _ | script s => s
  | begin => "BEGIN"
  | commit => "COMMIT"
  | rollback => "ROLLBACK"

def Statement.args : Statement → List Value
  | query _ args => args
  | _ => []

structure Answer where
  rows : List Row
  affected : Nat
  deriving Repr

structure Refusal where
  code : String
  message : String
  constraint : String
  deriving DecidableEq, Repr

abbrev interface : Interface where
  Call := Statement
  Answer _ := Except Refusal Answer

inductive Trouble where
  | refused (r : Refusal)
  | noRow
  | noColumn (name : String)
  | outOfBounds (length index : Nat)
  | undecodable (column : String)
  | misconfigured
  deriving DecidableEq, Repr

def Trouble.message : Trouble → String
  | refused r => s!"error returned from database: {r.message}"
  | noRow => "no rows returned by a query that expected to return at least one row"
  | noColumn name => s!"no column found for name: {name}"
  | outOfBounds length index =>
    s!"column index out of bounds: the len is {length}, but the index is {index}"
  | undecodable column => s!"error occurred while decoding column {column}"
  | misconfigured => "error with configuration"

end Roster.Sql
