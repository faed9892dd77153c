import Roster.Email
import Roster.FieldErrors
import Roster.Slug

namespace Roster

/-- How a field breaks its rule. -/
inductive Breach where
  | blank
  | length (lo hi : Nat)
  | email
  | slug
  | tooLong (most : Nat)
  | shortPassword (least : Nat)
  | taken
  deriving DecidableEq, Repr

def Breach.message : Breach → String
  | blank => "cannot be blank"
  | length lo hi => s!"the length must be between {lo} and {hi}"
  | email => "must be a valid email address"
  | slug => "must only contain lowercase letters, digits and hyphens"
  | tooLong n => s!"the length must be no more than {n}"
  | shortPassword n => s!"must be at least {n} characters long"
  | taken => "is already taken"

namespace Rule

def minLength : Nat := 3

def maxLength : Nat := 255

def minPassword : Nat := 8

def maxPassword : Nat := 128

def id (s : String) : Option Breach :=
  if Text.blank s then some .blank else none

def name (s : String) : Option Breach :=
  if Text.blank s then some .blank
  else if minLength ≤ Text.length s && Text.length s ≤ maxLength then none
  else some (.length minLength maxLength)

def slug (s : String) : Option Breach :=
  match name s with
  | some b => some b
  | none => if Slug.isSlug s then none else some .slug

def email (s : String) : Option Breach :=
  if Text.blank s then some .blank
  else if Email.isValid s then none
  else some .email

/-- Full names may be empty. -/
def fullname (s : String) : Option Breach :=
  if Text.length s ≤ maxLength then none else some (.tooLong maxLength)

/-- Passwords have 8 to 128 bytes. -/
def password (s : String) : Option Breach :=
  if s.isEmpty then some .blank
  else if s.utf8ByteSize < minPassword then some (.shortPassword minPassword)
  else if maxPassword < s.utf8ByteSize then some (.tooLong maxPassword)
  else none

def collect (checks : List (String × Option Breach)) : FieldErrors :=
  checks.foldl (fun errors c ↦ FieldErrors.check errors c.1 (c.2.map Breach.message)) []

end Rule

end Roster
