import Roster.Identifier
import Roster.Kind
import Roster.Rule
import Roster.Timestamp

namespace Roster

/-- A group or a team; its kind is that of the table it stands in. -/
structure Circle where
  id : CircleId
  slug : String
  name : String
  createdAt : Timestamp
  updatedAt : Timestamp
  deriving DecidableEq, Repr

namespace Circle

def new (id : CircleId) (now : Timestamp) (name : String) : Circle where
  id := id
  slug := Slug.ofText name
  name := name
  createdAt := now
  updatedAt := now

def isReferencedBy (c : Circle) (reference : String) : Bool :=
  c.id.text == reference || c.slug == reference

def setName (c : Circle) (now : Timestamp) (v : String) : Circle :=
  { c with name := v, updatedAt := now }

def setSlug (c : Circle) (now : Timestamp) (v : String) : Circle :=
  { c with slug := v, updatedAt := now }

def validate (c : Circle) : FieldErrors :=
  Rule.collect [("slug", Rule.slug c.slug), ("name", Rule.name c.name)]

/-- The fields in which no two circles of a kind agree. -/
inductive Key where
  | slug
  | name
  deriving DecidableEq, Repr

def Key.text : Key → String
  | slug => "slug"
  | name => "name"

def get (c : Circle) : Key → String
  | .slug => c.slug
  | .name => c.name

end Circle

end Roster
