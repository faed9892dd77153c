import Roster.Dialogue
import Roster.Fault
import Roster.Listing

namespace Roster.Store

/-- What can be asked of the place where users, circles and memberships are kept. Each call is carried
out as a whole. -/
inductive Call where
  | getUser (id : UserId)
  | findUser (reference : String)
  | userNamed (username : String)
  | listUsers (l : Listing)
  | createUser (u : User)
  | updateUser (u : User)
  /-- Together with all memberships of the user. -/
  | deleteUser (id : UserId)
  | isUserTaken (key : User.Key) (value : String) (except : Option UserId)
  | countUsers
  | getCircle (k : Kind) (id : CircleId)
  | findCircle (k : Kind) (reference : String)
  | listCircles (k : Kind) (l : Listing)
  /-- Together with the membership of its owner. -/
  | createCircle (k : Kind) (c : Circle) (owner : Option Membership)
  | updateCircle (k : Kind) (c : Circle)
  | deleteCircle (k : Kind) (id : CircleId)
  | isCircleTaken (k : Kind) (key : Circle.Key) (value : String) (except : Option CircleId)
  | countCircles (k : Kind)
  | insertMembership (k : Kind) (m : Membership)
  | updatePermission (k : Kind) (user : UserId) (circle : CircleId) (p : Permission) (now : Timestamp)
  | deleteMembership (k : Kind) (user : UserId) (circle : CircleId)
  | findMembership (k : Kind) (user : UserId) (circle : CircleId)
  | listByCircle (k : Kind) (circle : CircleId) (l : Listing)
  | listByUser (k : Kind) (user : UserId) (l : Listing)

abbrev Call.Result : Call → Type
  | .getUser _ | .findUser _ | .userNamed _ => Option User
  | .listUsers _ => Page User
  | .createUser _ | .updateUser _ => User
  | .deleteUser _ => Bool
  | .isUserTaken .. => Bool
  | .countUsers => Nat
  | .getCircle .. | .findCircle .. => Option Circle
  | .listCircles .. => Page Circle
  | .createCircle .. | .updateCircle .. => Circle
  | .deleteCircle .. => Bool
  | .isCircleTaken .. => Bool
  | .countCircles _ => Nat
  | .insertMembership .. | .updatePermission .. => Membership
  | .deleteMembership .. => Unit
  | .findMembership .. => Option Membership
  | .listByCircle .. | .listByUser .. => Page Member

abbrev interface : Interface where
  Call := Call
  Answer c := Except Fault c.Result

end Store

/-- A computation over the store that may fail. -/
abbrev Errand (α : Type) := ExceptT Fault (Dialogue Store.interface) α

namespace Errand

def ask (c : Store.Call) : Errand c.Result :=
  ExceptT.mk (Dialogue.call (I := Store.interface) c)

def ofExcept {α : Type} (e : Except Fault α) : Errand α :=
  ExceptT.mk (.done e)

def orFail {α : Type} (f : Fault) : Option α → Errand α
  | some a => pure a
  | none => throw f

def requireNone (errors : FieldErrors) : Errand Unit :=
  if errors.isEmpty then pure () else throw (.invalid errors)

end Errand

end Roster
