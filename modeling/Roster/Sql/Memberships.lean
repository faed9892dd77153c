import Roster.Sql.Circles
import Roster.Sql.Users

namespace Roster.Sql.Memberships

variable (k : Kind)

def table : String := "user_" ++ k.plural

def column : String := k.name ++ "_id"

def ofRow (r : Row) : Query Membership := do
  let get := fun {α : Type} (c : Cell α) (name : String) ↦
    Query.ofTrouble "read membership row" (r.get c name)
  let user ← get .text "user_id"
  let circle ← get .text "container_id"
  let permission ← get .text "perm"
  let created ← get .time "m_created_at"
  let updated ← get .time "m_updated_at"
  match UserId.ofText? user, CircleId.ofText? circle, Permission.ofName? permission with
  | some user, some circle, some permission => return ⟨user, circle, permission, created, updated⟩
  | none, _, _ => throw (.storage s!"Invalid user ID in database: {Breach.blank.message}")
  | _, none, _ => throw (.storage s!"Invalid {k.name} ID in database: {Breach.blank.message}")
  | _, _, none =>
    throw (.storage s!"Invalid permission in database: {Permission.unknownMessage permission}")

def memberOfRow (r : Row) : Query Member := do
  let m ← ofRow k r
  let user ← Users.ofRow "u_" r
  let circle ← Circles.ofRow k "c_" r
  return ⟨m, user, circle⟩

def explain (m : Membership) (r : Refusal) : Fault :=
  match Violation.ofRefusal? r with
  | some .primaryKey => .alreadyAssigned k
  | some (.reference true) => .userNotFound m.userId.text
  | some (.reference false) => .circleNotFound k m.circleId.text
  | _ => (Trouble.refused r).toFault s!"insert {k.name} membership"

def insert (m : Membership) : Query Membership := do
  let _ ← Query.sendOr (explain k m) (Circles.insertMembership k m)
  return m

def setPermission (user : UserId) (circle : CircleId) (p : Permission) : Statement :=
  .query (s!"UPDATE {table k} SET perm = $3, updated_at = NOW() WHERE user_id = $1 " ++
      s!"AND {column k} = $2 RETURNING created_at, updated_at")
    [.text user.text, .text circle.text, .text p.name]

/-- Changes a permission; the time of the change is the server's. -/
def updatePermission (user : UserId) (circle : CircleId) (p : Permission) : Query Membership := do
  match ← Query.fetchOptional s!"update {k.name} membership" (setPermission k user circle p) with
  | none => throw (.notAssigned k)
  | some row =>
    let created ← Query.ofTrouble "read membership row" (row.get .time "created_at")
    let updated ← Query.ofTrouble "read membership row" (row.get .time "updated_at")
    return ⟨user, circle, p, created, updated⟩

def delete (user : UserId) (circle : CircleId) : Query Unit := do
  let answer ← Query.send s!"delete {k.name} membership"
    (.query s!"DELETE FROM {table k} WHERE user_id = $1 AND {column k} = $2"
      [.text user.text, .text circle.text])
  if answer.affected = 0 then throw (.notAssigned k) else return ()

def selectPair (user : UserId) (circle : CircleId) : Statement :=
  .query (s!"SELECT user_id, {column k} AS container_id, perm, created_at AS m_created_at, " ++
      s!"updated_at AS m_updated_at FROM {table k} WHERE user_id = $1 AND {column k} = $2")
    [.text user.text, .text circle.text]

def find (user : UserId) (circle : CircleId) : Query (Option Membership) := do
  (← Query.fetchOptional s!"find {k.name} membership" (selectPair k user circle)).mapM (ofRow k)

def joined : String :=
  s!"FROM {table k} m JOIN users u ON u.id = m.user_id JOIN {k.plural} c ON c.id = m.{column k}"

def joinedColumns : String :=
  s!"m.user_id, m.{column k} AS container_id, m.perm, m.created_at AS m_created_at, " ++
    "m.updated_at AS m_updated_at, u.id AS u_id, u.slug AS u_slug, u.username AS u_username, " ++
    "u.email AS u_email, u.fullname AS u_fullname, u.password_hash AS u_password_hash, " ++
    "u.active AS u_active, u.admin AS u_admin, u.created_at AS u_created_at, " ++
    "u.updated_at AS u_updated_at, c.id AS c_id, c.slug AS c_slug, c.name AS c_name, " ++
    "c.created_at AS c_created_at, c.updated_at AS c_updated_at"

structure View where
  owner : String
  search : String
  order : String

def ofCircle (l : Listing) : View where
  owner := s!"m.{column k} = $1"
  search := "(u.username ILIKE $2 OR u.email ILIKE $2 OR u.fullname ILIKE $2)"
  order := s!"u.{l.userColumn.name} {l.order.keyword}, u.id ASC"

def ofUser (l : Listing) : View where
  owner := "m.user_id = $1"
  search := "(c.name ILIKE $2 OR c.slug ILIKE $2)"
  order := s!"c.{l.circleColumn.text} {l.order.keyword}, c.id ASC"

def View.filter (v : View) (l : Listing) : String :=
  if l.search.isEmpty then v.owner else s!"{v.owner} AND {v.search}"

def countMatching (v : View) (id : String) (l : Listing) : Statement :=
  .query s!"SELECT COUNT(*) {joined k} WHERE {v.filter l}" (.text id :: searchArgs l)

def selectPage (v : View) (id : String) (l : Listing) : Statement :=
  .query (s!"SELECT {joinedColumns k} {joined k} WHERE {v.filter l} ORDER BY {v.order} " ++
      pageClause (1 + (searchArgs l).length))
    (.text id :: searchArgs l ++ pageArgs l)

def list (v : View) (id : String) (l : Listing) : Query (Page Member) := do
  let total ← Query.scalar s!"count {k.name} members" .int (countMatching k v id l)
  let answer ← Query.send s!"list {k.name} members" (selectPage k v id l)
  return ⟨← answer.rows.mapM (memberOfRow k), countOf total⟩

end Roster.Sql.Memberships
