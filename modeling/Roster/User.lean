import Roster.Identifier
import Roster.Rule
import Roster.Timestamp

namespace Roster

/-- An account. The password is kept as a hash only. -/
structure User where
  id : UserId
  slug : String
  username : String
  email : String
  fullname : String
  passwordHash : String
  active : Bool
  admin : Bool
  createdAt : Timestamp
  updatedAt : Timestamp
  deriving DecidableEq, Repr

namespace User

def new (id : UserId) (now : Timestamp) (username email passwordHash : String) : User where
  id := id
  slug := Slug.ofText username
  username := username
  email := email
  fullname := ""
  passwordHash := passwordHash
  active := true
  admin := false
  createdAt := now
  updatedAt := now

/-- Whether a reference is the id, the slug or the name of the user. -/
def isReferencedBy (u : User) (reference : String) : Bool :=
  u.id.text == reference || u.slug == reference || u.username == reference

def setUsername (u : User) (now : Timestamp) (v : String) : User :=
  { u with username := v, updatedAt := now }

def setSlug (u : User) (now : Timestamp) (v : String) : User :=
  { u with slug := v, updatedAt := now }

def setEmail (u : User) (now : Timestamp) (v : String) : User :=
  { u with email := v, updatedAt := now }

def setFullname (u : User) (now : Timestamp) (v : String) : User :=
  { u with fullname := v, updatedAt := now }

def setPasswordHash (u : User) (now : Timestamp) (v : String) : User :=
  { u with passwordHash := v, updatedAt := now }

def setActive (u : User) (now : Timestamp) (v : Bool) : User :=
  { u with active := v, updatedAt := now }

def setAdmin (u : User) (now : Timestamp) (v : Bool) : User :=
  { u with admin := v, updatedAt := now }

def validate (u : User) : FieldErrors :=
  Rule.collect
    [("username", Rule.name u.username), ("slug", Rule.slug u.slug), ("email", Rule.email u.email),
     ("fullname", Rule.fullname u.fullname)]

/-- The fields in which no two users agree. -/
inductive Key where
  | slug
  | username
  | email
  deriving DecidableEq, Repr

def Key.name : Key → String
  | slug => "slug"
  | username => "username"
  | email => "email"

def get (u : User) : Key → String
  | .slug => u.slug
  | .username => u.username
  | .email => u.email

end User

end Roster
