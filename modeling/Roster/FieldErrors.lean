namespace Roster

structure FieldError where
  field : String
  message : String
  deriving DecidableEq, Repr

abbrev FieldErrors := List FieldError

namespace FieldErrors

def add (errors : FieldErrors) (field message : String) : FieldErrors :=
  errors ++ [⟨field, message⟩]

def check (errors : FieldErrors) (field : String) (failure : Option String) : FieldErrors :=
  match failure with
  | none => errors
  | some message => errors.add field message

def hasField (errors : FieldErrors) (field : String) : Bool :=
  errors.any (·.field == field)

def text (errors : FieldErrors) : String :=
  "; ".intercalate (errors.map fun e ↦ s!"{e.field}: {e.message}")

end FieldErrors

end Roster
