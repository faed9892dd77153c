import Roster.Sql.Constraint
import Roster.Sql.Query
import Roster.Sql.Search

namespace Roster.Sql.Circles

def columns : String := "id, slug, name, created_at, updated_at"

variable (k : Kind)

def ofRow (lead : String) (r : Row) : Query Circle := do
  let get := fun {α : Type} (c : Cell α) (name : String) ↦
    Query.ofTrouble s!"read {k.name} row" (r.get c (lead ++ name))
  let id ← get .text "id"
  let slug ← get .text "slug"
  let name ← get .text "name"
  let created ← get .time "created_at"
  let updated ← get .time "updated_at"
  match CircleId.ofText? id with
  | some id => return ⟨id, slug, name, created, updated⟩
  | none => throw (.storage s!"Invalid {k.name} ID in database: {Breach.blank.message}")

def explain (c : Circle) (r : Refusal) : Fault :=
  match Violation.ofRefusal? r with
  | some (.unique column) => .field column Breach.taken.message
  | some .primaryKey => .conflict s!"{k.name} with ID '{c.id.text}' already exists"
  | _ => (Trouble.refused r).toFault s!"write {k.name}"

def selectWhere (condition value : String) : Statement :=
  .query s!"SELECT {columns} FROM {k.plural} WHERE {condition} LIMIT 1" [.text value]

def fetchWhere (condition value : String) : Query (Option Circle) := do
  (← Query.fetchOptional s!"get {k.name}" (selectWhere k condition value)).mapM (ofRow k "")

def get (id : CircleId) : Query (Option Circle) :=
  fetchWhere k "id = $1" id.text

/-- The circle with this id comes before one with this slug. -/
def find (reference : String) : Query (Option Circle) :=
  fetchWhere k "id = $1 OR slug = $1 ORDER BY (id = $1) DESC" reference

def filter (l : Listing) : String :=
  if l.search.isEmpty then "TRUE" else "(name ILIKE $1 OR slug ILIKE $1)"

def countMatching (l : Listing) : Statement :=
  .query s!"SELECT COUNT(*) FROM {k.plural} WHERE {filter l}" (searchArgs l)

def selectPage (l : Listing) : Statement :=
  .query (s!"SELECT {columns} FROM {k.plural} WHERE {filter l} ORDER BY {l.circleColumn.text} " ++
      s!"{l.order.keyword}, id ASC {pageClause (searchArgs l).length}")
    (searchArgs l ++ pageArgs l)

def list (l : Listing) : Query (Page Circle) := do
  let total ← Query.scalar s!"count {k.plural}" .int (countMatching k l)
  let answer ← Query.send s!"list {k.plural}" (selectPage k l)
  return ⟨← answer.rows.mapM (ofRow k ""), countOf total⟩

def insert (c : Circle) : Statement :=
  .query s!"INSERT INTO {k.plural} ({columns}) VALUES ($1, $2, $3, $4, $5)"
    [.text c.id.text, .text c.slug, .text c.name, .time c.createdAt, .time c.updatedAt]

def insertMembership (m : Membership) : Statement :=
  .query (s!"INSERT INTO user_{k.plural} (user_id, {k.name}_id, perm, created_at, updated_at) " ++
      "VALUES ($1, $2, $3, $4, $5)")
    [.text m.userId.text, .text m.circleId.text, .text m.permission.name, .time m.createdAt,
     .time m.updatedAt]

def explainOwner (m : Membership) (r : Refusal) : Fault :=
  match Violation.ofRefusal? r with
  | some (.reference true) => .userNotFound m.userId.text
  | _ => (Trouble.refused r).toFault s!"attach {k.name} owner"

/-- Stores a circle and the membership of its owner, or neither. -/
def create (c : Circle) (owner : Option Membership) : Query Circle :=
  Query.transaction "begin transaction" "commit transaction" do
    let _ ← Query.sendOr (explain k c) (insert k c)
    if let some m := owner then
      let _ ← Query.sendOr (explainOwner k m) (insertMembership k m)
    return c

def replace (c : Circle) : Statement :=
  .query s!"UPDATE {k.plural} SET slug = $2, name = $3, updated_at = $4 WHERE id = $1"
    [.text c.id.text, .text c.slug, .text c.name, .time c.updatedAt]

def update (c : Circle) : Query Circle := do
  let answer ← Query.sendOr (explain k c) (replace k c)
  if answer.affected = 0 then throw (.circleNotFound k c.id.text) else return c

def delete (id : CircleId) : Query Bool := do
  let answer ← Query.send s!"delete {k.name}"
    (.query s!"DELETE FROM {k.plural} WHERE id = $1" [.text id.text])
  return answer.affected != 0

def selectTaken (key : Circle.Key) (value : String) (except : Option CircleId) : Statement :=
  .query (s!"SELECT EXISTS(SELECT 1 FROM {k.plural} WHERE {key.text} = $1 " ++
      "AND ($2::TEXT IS NULL OR id <> $2))")
    [.text value, except.elim .null (.text ·.text)]

def isTaken (key : Circle.Key) (value : String) (except : Option CircleId) : Query Bool :=
  Query.scalar s!"check {k.name} uniqueness" .bool (selectTaken k key value except)

def count : Query Nat := do
  return countOf (← Query.scalar s!"count {k.plural}" .int
    (.query s!"SELECT COUNT(*) FROM {k.plural}" []))

end Roster.Sql.Circles
