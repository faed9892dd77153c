import Roster.Circle
import Roster.Permission
import Roster.User

namespace Roster

structure Membership where
  userId : UserId
  circleId : CircleId
  permission : Permission
  createdAt : Timestamp
  updatedAt : Timestamp
  deriving DecidableEq, Repr

namespace Membership

def new (userId : UserId) (circleId : CircleId) (permission : Permission) (now : Timestamp) : Membership :=
  ⟨userId, circleId, permission, now, now⟩

def isPair (m : Membership) (userId : UserId) (circleId : CircleId) : Bool :=
  m.userId == userId && m.circleId == circleId

/-- Sets the permission; setting the one already there counts as a change. -/
def setPermission (m : Membership) (now : Timestamp) (p : Permission) : Membership :=
  { m with permission := p, updatedAt := now }

end Membership

/-- A membership with the records that it joins. -/
structure Member where
  membership : Membership
  user : User
  circle : Circle
  deriving DecidableEq, Repr

end Roster
