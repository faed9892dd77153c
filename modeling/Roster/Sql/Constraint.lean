import Roster.Sql.Statement
import Roster.Text.Pieces

namespace Roster.Sql

/-- The classes of constraints that are told apart. -/
inductive Violation where
  | unique (column : String)
  | primaryKey
  | reference (toUser : Bool)
  deriving DecidableEq, Repr

namespace Violation

def hasSuffix (suffix s : String) : Bool :=
  suffix.toList.reverse.isPrefixOf s.toList.reverse

def lastWord (s : String) : String :=
  match Text.splitLast (· == '_') s.toList with
  | some (_, word) => String.ofList word
  | none => s

/-- The class of a constraint by its name, given what kind of rule it is. The names are
`<table>_<column>_key`, `<table>_pkey` and `<table>_<column>_fkey`. -/
def ofName? (name : String) (isUnique isReference : Bool) : Option Violation :=
  if isUnique then
    if hasSuffix "_pkey" name then some primaryKey
    else some (unique (((Text.beforeSuffix? "_key" name).map lastWord).getD ""))
  else if isReference then some (reference (hasSuffix "_user_id_fkey" name))
  else none

def uniqueCode : String := "23505"

def referenceCode : String := "23503"

def ofRefusal? (r : Refusal) : Option Violation :=
  ofName? r.constraint (r.code == uniqueCode) (r.code == referenceCode)

end Violation

end Roster.Sql
