import Roster.Accounts
import Roster.Circles
import Roster.Json.Decoder

namespace Roster.Api.Body

open Json (Shape)

structure Login where
  username : String
  password : String
  deriving DecidableEq, Repr

def login : Shape Login :=
  Login.mk <$> .defaulted "username" .string "" <*> .defaulted "password" .string ""

/-- New users are active unless the body says otherwise. -/
def newUser : Shape Accounts.NewUser :=
  (fun username password email fullname slug active admin ↦
    ⟨username, password, email, fullname, slug, active.getD true, admin⟩) <$>
    .defaulted "username" .string "" <*> .defaulted "password" .string "" <*>
    .defaulted "email" .string "" <*> .optional "fullname" .string <*> .optional "slug" .string <*>
    .optional "active" .boolean <*> .defaulted "admin" .boolean false

def userChange : Shape Accounts.Change :=
  Accounts.Change.mk <$> .optional "username" .string <*> .optional "slug" .string <*>
    .optional "email" .string <*> .optional "fullname" .string <*> .optional "password" .string <*>
    .optional "active" .boolean <*> .optional "admin" .boolean

/-- What users may change about themselves; flags are not even looked at. -/
def profileChange : Shape Accounts.Change :=
  (fun username email fullname password ↦ Accounts.Change.forProfile
    { username := username, email := email, fullname := fullname, password := password }) <$>
    .optional "username" .string <*> .optional "email" .string <*> .optional "fullname" .string <*>
    .optional "password" .string

def newCircle : Shape Circles.NewCircle :=
  Circles.NewCircle.mk <$> .defaulted "name" .string "" <*> .optional "slug" .string

def circleChange : Shape Circles.Change :=
  Circles.Change.mk <$> .optional "name" .string <*> .optional "slug" .string

structure Enrol where
  reference : String
  permission : Option String
  deriving DecidableEq, Repr

def memberOfCircle : Shape Enrol :=
  Enrol.mk <$> .defaulted "user" .string "" <*> .optional "perm" .string

def circleOfUser : Shape Enrol :=
  Enrol.mk <$> .aliased "container" ["group", "team"] .string "" <*> .optional "perm" .string

end Roster.Api.Body
