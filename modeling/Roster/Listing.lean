import Roster.Membership

namespace Roster

inductive SortOrder where
  | asc
  | desc
  deriving DecidableEq, Repr, Inhabited

namespace SortOrder

def name : SortOrder → String
  | asc => "asc"
  | desc => "desc"

/-- `asc` in any case of letters and an empty text mean rising, anything else falling. -/
def ofParam : Option String → SortOrder
  | none => asc
  | some s =>
    let t := (Text.trim s).toList
    if t.isEmpty || t.map Char.toLower == ['a', 's', 'c'] then asc else desc

def apply : SortOrder → Ordering → Ordering
  | asc, o => o
  | desc, o => o.swap

end SortOrder

structure Listing where
  search : String
  sort : Option String
  order : SortOrder
  limit : Nat
  offset : Nat
  deriving DecidableEq, Repr

/-- One page of records and the number of all that match. -/
structure Page (α : Type) where
  records : List α
  total : Nat
  deriving Repr

def Page.map {α β : Type} (f : α → β) (p : Page α) : Page β :=
  ⟨p.records.map f, p.total⟩

namespace Listing

def defaultLimit : Nat := 100

def default : Listing :=
  ⟨"", none, .asc, defaultLimit, 0⟩

/-- The listing that optional parameters ask for. A limit of zero means the default. -/
def ofParams (search sort order : Option String) (limit offset : Option Nat) : Listing where
  search := (search.map Text.trim).getD ""
  sort := sort.filter fun s ↦ !Text.blank s
  order := SortOrder.ofParam order
  limit := (limit.filter (0 < ·)).getD defaultLimit
  offset := offset.getD 0

/-- Whether some field contains the search text, whatever the case of letters. -/
def isMatch (l : Listing) (fields : List String) : Bool :=
  l.search.isEmpty ||
    fields.any fun f ↦ Text.occursIn (Text.lowercase l.search).toList (Text.lowercase f).toList

def cut {α : Type} (l : Listing) (records : List α) : List α :=
  (records.drop l.offset).take l.limit

end Listing

inductive User.Column where
  | username
  | email
  | fullname
  | admin
  | active
  deriving DecidableEq, Repr, Inhabited

namespace User.Column

def name : User.Column → String
  | username => "username"
  | email => "email"
  | fullname => "fullname"
  | admin => "admin"
  | active => "active"

def all : List User.Column := [username, email, fullname, admin, active]

/-- How two users compare by a column; texts compare by code points, and no comes before yes. -/
def compare (c : User.Column) (a b : User) : Ordering :=
  match c with
  | username => Ord.compare a.username b.username
  | email => Ord.compare a.email b.email
  | fullname => Ord.compare a.fullname b.fullname
  | admin => Ord.compare a.admin b.admin
  | active => Ord.compare a.active b.active

end User.Column

inductive Circle.Column where
  | name
  | slug
  deriving DecidableEq, Repr, Inhabited

namespace Circle.Column

def text : Circle.Column → String
  | name => "name"
  | slug => "slug"

def all : List Circle.Column := [name, slug]

def compare (c : Circle.Column) (a b : Circle) : Ordering :=
  match c with
  | name => Ord.compare a.name b.name
  | slug => Ord.compare a.slug b.slug

end Circle.Column

namespace Listing

def userColumn (l : Listing) : User.Column :=
  (l.sort.bind fun s ↦ User.Column.all.find? (·.name == Text.lowercase s)).getD .username

def circleColumn (l : Listing) : Circle.Column :=
  (l.sort.bind fun s ↦ Circle.Column.all.find? (·.text == Text.lowercase s)).getD .name

def matchesUser (l : Listing) (u : User) : Bool :=
  l.isMatch [u.username, u.email, u.fullname]

def matchesCircle (l : Listing) (c : Circle) : Bool :=
  l.isMatch [c.name, c.slug]

/-- How two users stand in the list; ids decide between equals, in the same direction. -/
def compareUsers (l : Listing) (a b : User) : Ordering :=
  l.order.apply ((l.userColumn.compare a b).then (Ord.compare a.id.text b.id.text))

def compareCircles (l : Listing) (a b : Circle) : Ordering :=
  l.order.apply ((l.circleColumn.compare a b).then (Ord.compare a.id.text b.id.text))

def page {α : Type} (l : Listing) (isMatch : α → Bool) (compare : α → α → Ordering) (records : List α) :
    Page α :=
  let found := records.filter isMatch
  ⟨l.cut (found.mergeSort fun a b ↦ (compare a b).isLE), found.length⟩

end Listing

end Roster
