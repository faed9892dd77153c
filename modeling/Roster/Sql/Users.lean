import Roster.Sql.Constraint
import Roster.Sql.Query
import Roster.Sql.Search

namespace Roster.Sql.Users

def columns : String :=
  "id, slug, username, email, fullname, password_hash, active, admin, created_at, updated_at"

def ofRow (lead : String) (r : Row) : Query User := do
  let get := fun {α : Type} (c : Cell α) (name : String) ↦
    Query.ofTrouble "read user row" (r.get c (lead ++ name))
  let id ← get .text "id"
  let slug ← get .text "slug"
  let username ← get .text "username"
  let email ← get .text "email"
  let fullname ← get .text "fullname"
  let hash ← get .text "password_hash"
  let active ← get .bool "active"
  let admin ← get .bool "admin"
  let created ← get .time "created_at"
  let updated ← get .time "updated_at"
  match UserId.ofText? id with
  | some id => return ⟨id, slug, username, email, fullname, hash, active, admin, created, updated⟩
  | none => throw (.storage s!"Invalid user ID in database: {Breach.blank.message}")

def explain (u : User) (r : Refusal) : Fault :=
  match Violation.ofRefusal? r with
  | some (.unique column) => .field column Breach.taken.message
  | some .primaryKey => .conflict s!"User with ID '{u.id.text}' already exists"
  | _ => (Trouble.refused r).toFault "write user"

def selectWhere (condition value : String) : Statement :=
  .query s!"SELECT {columns} FROM users WHERE {condition} LIMIT 1" [.text value]

def fetchWhere (condition value : String) : Query (Option User) := do
  (← Query.fetchOptional "get user" (selectWhere condition value)).mapM (ofRow "")

def get (id : UserId) : Query (Option User) :=
  fetchWhere "id = $1" id.text

/-- The user with this id comes before one with this slug or name. -/
def find (reference : String) : Query (Option User) :=
  fetchWhere "id = $1 OR slug = $1 OR username = $1 ORDER BY (id = $1) DESC" reference

def named (username : String) : Query (Option User) :=
  fetchWhere "username = $1" username

def filter (l : Listing) : String :=
  if l.search.isEmpty then "TRUE" else "(username ILIKE $1 OR email ILIKE $1 OR fullname ILIKE $1)"

def countMatching (l : Listing) : Statement :=
  .query s!"SELECT COUNT(*) FROM users WHERE {filter l}" (searchArgs l)

def selectPage (l : Listing) : Statement :=
  .query (s!"SELECT {columns} FROM users WHERE {filter l} ORDER BY {l.userColumn.name} " ++
      s!"{l.order.keyword}, id ASC {pageClause (searchArgs l).length}")
    (searchArgs l ++ pageArgs l)

def list (l : Listing) : Query (Page User) := do
  let total ← Query.scalar "count users" .int (countMatching l)
  let answer ← Query.send "list users" (selectPage l)
  return ⟨← answer.rows.mapM (ofRow ""), countOf total⟩

def insert (u : User) : Statement :=
  .query (s!"INSERT INTO users ({columns}) VALUES ($1, $2, $3, $4, $5, $6, $7, $8, $9, $10)")
    [.text u.id.text, .text u.slug, .text u.username, .text u.email, .text u.fullname,
     .text u.passwordHash, .bool u.active, .bool u.admin, .time u.createdAt, .time u.updatedAt]

def create (u : User) : Query User := do
  let _ ← Query.sendOr (explain u) (insert u)
  return u

def replace (u : User) : Statement :=
  .query ("UPDATE users SET slug = $2, username = $3, email = $4, fullname = $5, " ++
      "password_hash = $6, active = $7, admin = $8, updated_at = $9 WHERE id = $1")
    [.text u.id.text, .text u.slug, .text u.username, .text u.email, .text u.fullname,
     .text u.passwordHash, .bool u.active, .bool u.admin, .time u.updatedAt]

def update (u : User) : Query User := do
  let answer ← Query.sendOr (explain u) (replace u)
  if answer.affected = 0 then throw (.userNotFound u.id.text) else return u

def delete (id : UserId) : Query Bool := do
  let answer ← Query.send "delete user"
    (.query "DELETE FROM users WHERE id = $1" [.text id.text])
  return answer.affected != 0

def selectTaken (key : User.Key) (value : String) (except : Option UserId) : Statement :=
  .query (s!"SELECT EXISTS(SELECT 1 FROM users WHERE {key.name} = $1 " ++
      "AND ($2::TEXT IS NULL OR id <> $2))")
    [.text value, except.elim .null (.text ·.text)]

def isTaken (key : User.Key) (value : String) (except : Option UserId) : Query Bool :=
  Query.scalar "check user uniqueness" .bool (selectTaken key value except)

def count : Query Nat := do
  return countOf (← Query.scalar "count users" .int (.query "SELECT COUNT(*) FROM users" []))

end Roster.Sql.Users
