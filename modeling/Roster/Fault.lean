import Roster.FieldErrors
import Roster.Kind
import Roster.Permission

namespace Roster

inductive Fault where
  | userNotFound (reference : String)
  | circleNotFound (kind : Kind) (reference : String)
  | notFound (what : String)
  | alreadyAssigned (kind : Kind)
  | notAssigned (kind : Kind)
  | conflict (what : String)
  | invalid (errors : FieldErrors)
  | unauthorized (why : String)
  | forbidden (why : String)
  | tokenExpired
  | tokenUnsound
  | configuration (what : String)
  | internal (what : String)
  | storage (what : String)
  deriving DecidableEq, Repr

/-- The classes of causes that a caller can tell apart. -/
inductive Fault.Class where
  | notFound
  | conflict
  | precondition
  | validation
  | unauthorized
  | forbidden
  | expired
  | unsound
  | internal
  deriving DecidableEq, Repr

namespace Fault

def field (name message : String) : Fault :=
  invalid [⟨name, message⟩]

def badPermission (s : String) : Fault :=
  field "perm" (Permission.unknownMessage s)

def message : Fault → String
  | userNotFound r => s!"Failed to find user '{r}'"
  | circleNotFound k r => s!"Failed to find {k.name} '{r}'"
  | notFound m => s!"Not found: {m}"
  | alreadyAssigned k => s!"User is already assigned to this {k.name}"
  | notAssigned k => s!"User is not assigned to this {k.name}"
  | conflict m => s!"Conflict: {m}"
  | invalid errors => s!"Validation error: {errors.text}"
  | unauthorized m => s!"Unauthorized: {m}"
  | forbidden m => s!"Forbidden: {m}"
  | tokenExpired => "Token has expired"
  | tokenUnsound => "Token signature is invalid"
  | configuration m => s!"Configuration error: {m}"
  | internal m => s!"Internal error: {m}"
  | storage m => s!"Storage error: {m}"

def cls : Fault → Class
  | userNotFound _ | circleNotFound .. | notFound _ => .notFound
  | alreadyAssigned _ | conflict _ => .conflict
  | notAssigned _ => .precondition
  | invalid _ => .validation
  | unauthorized _ => .unauthorized
  | forbidden _ => .forbidden
  | tokenExpired => .expired
  | tokenUnsound => .unsound
  | configuration _ | internal _ | storage _ => .internal

end Fault

end Roster
