import Roster.Store

namespace Roster.Store

/-- Records under keys. The order of the entries carries no meaning. -/
structure Table (α : Type) where
  entries : List (String × α)

namespace Table

variable {α : Type}

def empty : Table α := ⟨[]⟩

def get? (t : Table α) (key : String) : Option α :=
  t.entries.lookup key

def contains (t : Table α) (key : String) : Bool :=
  (t.get? key).isSome

def values (t : Table α) : List α :=
  t.entries.map (·.2)

def insert (t : Table α) (key : String) (a : α) : Table α :=
  if t.contains key then ⟨t.entries.map fun e ↦ if e.1 == key then (key, a) else e⟩
  else ⟨t.entries ++ [(key, a)]⟩

def erase (t : Table α) (key : String) : Table α :=
  ⟨t.entries.filter fun e ↦ e.1 != key⟩

end Table

structure CircleTables where
  circles : Table Circle
  memberships : List Membership

structure Tables where
  users : Table User
  groups : CircleTables
  teams : CircleTables

namespace Tables

def empty : Tables :=
  ⟨.empty, ⟨.empty, []⟩, ⟨.empty, []⟩⟩

def of (t : Tables) : Kind → CircleTables
  | .group => t.groups
  | .team => t.teams

def set (t : Tables) (k : Kind) (c : CircleTables) : Tables :=
  match k with
  | .group => { t with groups := c }
  | .team => { t with teams := c }

def takenMessage : String := "is already taken"

/-- The first unique field in which another user agrees. -/
def userClash (t : Tables) (u : User) : Option User.Key :=
  [User.Key.username, .slug, .email].find? fun key ↦
    t.users.values.any fun v ↦ v.id != u.id && v.get key == u.get key

def circleClash (t : CircleTables) (c : Circle) : Option Circle.Key :=
  [Circle.Key.slug, .name].find? fun key ↦
    t.circles.values.any fun v ↦ v.id != c.id && v.get key == c.get key

def putUser (t : Tables) (u : User) : Except Fault User × Tables :=
  match t.userClash u with
  | some key => (.error (.field key.name takenMessage), t)
  | none => (.ok u, { t with users := t.users.insert u.id.text u })

def createUser (t : Tables) (u : User) : Except Fault User × Tables :=
  if t.users.contains u.id.text then
    (.error (.conflict s!"User with ID '{u.id.text}' already exists"), t)
  else t.putUser u

def updateUser (t : Tables) (u : User) : Except Fault User × Tables :=
  if t.users.contains u.id.text then t.putUser u
  else (.error (.userNotFound u.id.text), t)

def withoutUser (c : CircleTables) (id : UserId) : CircleTables :=
  { c with memberships := c.memberships.filter (·.userId != id) }

def deleteUser (t : Tables) (id : UserId) : Bool × Tables :=
  (t.users.contains id.text,
    ⟨t.users.erase id.text, withoutUser t.groups id, withoutUser t.teams id⟩)

/-- The user with this id, else one with this slug or name. -/
def findUser (t : Tables) (reference : String) : Option User :=
  match t.users.get? reference with
  | some u => some u
  | none => t.users.values.find? (·.isReferencedBy reference)

def createCircle (t : Tables) (k : Kind) (c : Circle) (owner : Option Membership) :
    Except Fault Circle × Tables :=
  let table := t.of k
  match owner.filter fun m ↦ !t.users.contains m.userId.text with
  | some m => (.error (.userNotFound m.userId.text), t)
  | none =>
    if table.circles.contains c.id.text then
      (.error (.conflict s!"{k.name} with ID '{c.id.text}' already exists"), t)
    else match circleClash table c with
      | some key => (.error (.field key.text takenMessage), t)
      | none => (.ok c, t.set k ⟨table.circles.insert c.id.text c, table.memberships ++ owner.toList⟩)

def updateCircle (t : Tables) (k : Kind) (c : Circle) : Except Fault Circle × Tables :=
  let table := t.of k
  if table.circles.contains c.id.text then
    match circleClash table c with
    | some key => (.error (.field key.text takenMessage), t)
    | none => (.ok c, t.set k { table with circles := table.circles.insert c.id.text c })
  else (.error (.circleNotFound k c.id.text), t)

def deleteCircle (t : Tables) (k : Kind) (id : CircleId) : Bool × Tables :=
  let table := t.of k
  (table.circles.contains id.text, t.set k
    ⟨table.circles.erase id.text, table.memberships.filter (·.circleId != id)⟩)

def insertMembership (t : Tables) (k : Kind) (m : Membership) : Except Fault Membership × Tables :=
  let table := t.of k
  if !t.users.contains m.userId.text then (.error (.userNotFound m.userId.text), t)
  else if !table.circles.contains m.circleId.text then
    (.error (.circleNotFound k m.circleId.text), t)
  else if table.memberships.any (·.isPair m.userId m.circleId) then (.error (.alreadyAssigned k), t)
  else (.ok m, t.set k { table with memberships := table.memberships ++ [m] })

def changeFirst (p : Membership → Bool) (f : Membership → Membership) :
    List Membership → List Membership
  | [] => []
  | m :: rest => if p m then f m :: rest else m :: changeFirst p f rest

def updatePermission (t : Tables) (k : Kind) (user : UserId) (circle : CircleId) (p : Permission)
    (now : Timestamp) : Except Fault Membership × Tables :=
  let table := t.of k
  match table.memberships.find? (·.isPair user circle) with
  | none => (.error (.notAssigned k), t)
  | some m => (.ok (m.setPermission now p), t.set k { table with
      memberships := changeFirst (·.isPair user circle) (·.setPermission now p) table.memberships })

def deleteMembership (t : Tables) (k : Kind) (user : UserId) (circle : CircleId) :
    Except Fault Unit × Tables :=
  let table := t.of k
  if table.memberships.any (·.isPair user circle) then
    (.ok (), t.set k { table with memberships := table.memberships.eraseP (·.isPair user circle) })
  else (.error (.notAssigned k), t)

/-- A row with the records it joins, if both are stored. -/
def member? (t : Tables) (k : Kind) (m : Membership) : Option Member := do
  return ⟨m, ← t.users.get? m.userId.text, ← (t.of k).circles.get? m.circleId.text⟩

def membersOfCircle (t : Tables) (k : Kind) (circle : CircleId) : List Member :=
  ((t.of k).memberships.filter (·.circleId == circle)).filterMap (t.member? k)

def membersOfUser (t : Tables) (k : Kind) (user : UserId) : List Member :=
  ((t.of k).memberships.filter (·.userId == user)).filterMap (t.member? k)

def answer : (c : Call) → Tables → Except Fault c.Result × Tables
  | .getUser id, t => (.ok (t.users.get? id.text), t)
  | .findUser r, t => (.ok (t.findUser r), t)
  | .userNamed n, t => (.ok (t.users.values.find? (·.username == n)), t)
  | .listUsers l, t => (.ok (l.page l.matchesUser l.compareUsers t.users.values), t)
  | .createUser u, t => t.createUser u
  | .updateUser u, t => t.updateUser u
  | .deleteUser id, t => let (b, t) := t.deleteUser id; (.ok b, t)
  | .isUserTaken key v except, t =>
    (.ok (t.users.values.any fun u ↦ some u.id != except && u.get key == v), t)
  | .countUsers, t => (.ok t.users.entries.length, t)
  | .getCircle k id, t => (.ok ((t.of k).circles.get? id.text), t)
  | .findCircle k r, t => (.ok ((t.of k).circles.values.find? (·.isReferencedBy r)), t)
  | .listCircles k l, t =>
    (.ok (l.page l.matchesCircle l.compareCircles (t.of k).circles.values), t)
  | .createCircle k c owner, t => t.createCircle k c owner
  | .updateCircle k c, t => t.updateCircle k c
  | .deleteCircle k id, t => let (b, t) := t.deleteCircle k id; (.ok b, t)
  | .isCircleTaken k key v except, t =>
    (.ok ((t.of k).circles.values.any fun c ↦ some c.id != except && c.get key == v), t)
  | .countCircles k, t => (.ok (t.of k).circles.entries.length, t)
  | .insertMembership k m, t => t.insertMembership k m
  | .updatePermission k u c p now, t => t.updatePermission k u c p now
  | .deleteMembership k u c, t => t.deleteMembership k u c
  | .findMembership k u c, t => (.ok ((t.of k).memberships.find? (·.isPair u c)), t)
  | .listByCircle k c l, t =>
    (.ok (l.page (l.matchesUser ·.user) (fun a b ↦ l.compareUsers a.user b.user)
      (t.membersOfCircle k c)), t)
  | .listByUser k u l, t =>
    (.ok (l.page (l.matchesCircle ·.circle) (fun a b ↦ l.compareCircles a.circle b.circle)
      (t.membersOfUser k u)), t)

end Tables

end Roster.Store
