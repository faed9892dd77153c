import Roster.Accounts
import Roster.Circles

namespace Roster.Enrolment

inductive Action where
  | attach
  | permit
  | drop
  deriving DecidableEq, Repr

def Action.name : Action → String
  | attach => "attach"
  | permit => "permit"
  | drop => "drop"

/-- An attempt to write a membership, and whether it succeeded. -/
structure Attempt where
  kind : Kind
  action : Action
  isSuccess : Bool
  deriving DecidableEq, Repr

/-- The outcome of an operation, with the attempt to write if there was one. -/
structure Outcome (α : Type) where
  result : Except Fault α
  attempt : Option Attempt

/-- A computation whose last step may be an attempt to write. -/
abbrev Operation (α : Type) := Dialogue Store.interface (Outcome α)

variable {α β : Type}

def resolve (k : Kind) (userRef circleRef : String) : Errand (User × Circle) := do
  let user ← Accounts.find userRef
  let circle ← Circles.find k circleRef
  return (user, circle)

def attempting (k : Kind) (action : Action) (before : Errand β) (write : β → Errand α) : Operation α :=
  before.run.bind fun
    | .error f => .done ⟨.error f, none⟩
    | .ok b => (write b).run.bind fun result ↦ .done ⟨result, some ⟨k, action, result.isOk⟩⟩

/-- The permission that attaching is asked for: `user` if none is given. -/
def permissionToAttach (p : Option String) : Except Fault Permission :=
  match p.filter fun s ↦ !Text.blank s with
  | none => .ok .user
  | some s => (Permission.ofName? s).elim (.error (.badPermission s)) .ok

/-- The permission to change to, which has to be given. -/
def permissionToPermit : Option String → Except Fault Permission
  | none => .error (.field "perm" Breach.blank.message)
  | some s => (Permission.ofName? s).elim (.error (.badPermission s)) .ok

/-- Attaches a user to a circle. Unknown records are reported first, then a pair that is attached
already, then a bad permission. -/
def attach (k : Kind) (now : Timestamp) (userRef circleRef : String) (p : Option String) : Operation Member :=
  attempting k .attach
    (do
      let (user, circle) ← resolve k userRef circleRef
      if (← Errand.ask (.findMembership k user.id circle.id)).isSome then throw (.alreadyAssigned k)
      let permission ← Errand.ofExcept (permissionToAttach p)
      return (user, circle, permission))
    fun (user, circle, permission) ↦ do
      let m ← Errand.ask (.insertMembership k (.new user.id circle.id permission now))
      return ⟨m, user, circle⟩

/-- Changes the permission of a member. Giving the same permission again succeeds. -/
def permit (k : Kind) (now : Timestamp) (userRef circleRef : String) (p : Option String) : Operation Member :=
  attempting k .permit
    (do
      let (user, circle) ← resolve k userRef circleRef
      if (← Errand.ask (.findMembership k user.id circle.id)).isNone then throw (.notAssigned k)
      let permission ← Errand.ofExcept (permissionToPermit p)
      return (user, circle, permission))
    fun (user, circle, permission) ↦ do
      let m ← Errand.ask (.updatePermission k user.id circle.id permission now)
      return ⟨m, user, circle⟩

def drop (k : Kind) (userRef circleRef : String) : Operation Unit :=
  attempting k .drop (resolve k userRef circleRef)
    fun (user, circle) ↦ Errand.ask (.deleteMembership k user.id circle.id)

def membersOf (k : Kind) (circleRef : String) (l : Listing) : Errand (Page Member) := do
  let circle ← Circles.find k circleRef
  Errand.ask (.listByCircle k circle.id l)

def circlesOf (k : Kind) (userRef : String) (l : Listing) : Errand (Page Member) := do
  let user ← Accounts.find userRef
  Errand.ask (.listByUser k user.id l)

end Roster.Enrolment
