import Roster.Fresh
import Roster.Password
import Roster.Store

namespace Roster.Accounts

structure NewUser where
  username : String
  password : String
  email : String
  fullname : Option String
  slug : Option String
  active : Bool
  admin : Bool
  deriving DecidableEq, Repr

/-- What is to change about a user; what is absent stays. -/
structure Change where
  username : Option String := none
  slug : Option String := none
  email : Option String := none
  fullname : Option String := none
  password : Option String := none
  active : Option Bool := none
  admin : Option Bool := none
  deriving DecidableEq, Repr

def Change.forProfile (c : Change) : Change :=
  { c with active := none, admin := none }

def get (id : UserId) : Errand User := do
  Errand.orFail (.userNotFound id.text) (← Errand.ask (.getUser id))

/-- The user with this id, slug or name. -/
def find (reference : String) : Errand User := do
  Errand.orFail (.userNotFound reference) (← Errand.ask (.findUser reference))

def list (l : Listing) : Errand (Page User) :=
  Errand.ask (.listUsers l)

def count : Errand Nat :=
  Errand.ask .countUsers

def firstFree (except : Option UserId) : List String → Errand String
  | [] => throw (.field "slug" Breach.taken.message)
  | s :: rest => do
    if ← Errand.ask (.isUserTaken .slug s except) then firstFree except rest else pure s

/-- The slug itself if it is free, else one with a suffix. The empty slug is left to validation. -/
def availableSlug (f : Fresh) (base : String) (except : Option UserId) : Errand String :=
  if base == "" then pure base else firstFree except (base :: f.candidates base)

def checkTaken (u : User) : List User.Key → FieldErrors → Errand FieldErrors
  | [], errors => pure errors
  | key :: rest, errors => do
    if errors.hasField key.name then checkTaken u rest errors
    else if ← Errand.ask (.isUserTaken key (u.get key) (some u.id)) then
      checkTaken u rest (errors.add key.name Breach.taken.message)
    else checkTaken u rest errors

/-- The unique fields that are looked up; a derived slug has been already. -/
def probes (isDerived : Bool) : List User.Key :=
  if isDerived then [.username, .email] else [.username, .email, .slug]

def slugOf (f : Fresh) (given : Option String) (base : String) : Errand String :=
  match given with
  | some s => pure s
  | none => availableSlug f base none

def draft (h : Hasher) (f : Fresh) (r : NewUser) : Errand User := do
  let user := { User.new f.userId f.now r.username r.email "" with
    fullname := r.fullname.getD "", active := r.active, admin := r.admin }
  let given := r.slug.filter fun s ↦ !Text.blank s
  let slug ← slugOf f given user.slug
  let user := { user with slug := slug }
  let errors := user.validate.check "password" ((Rule.password r.password).map Breach.message)
  Errand.requireNone (← checkTaken user (probes given.isNone) errors)
  let hash ← Errand.ofExcept (h.hash r.password)
  return user.setPasswordHash f.now hash

def create (h : Hasher) (f : Fresh) (r : NewUser) : Errand User := do
  Errand.ask (.createUser (← draft h f r))

def withFields (now : Timestamp) (c : Change) (u : User) : User :=
  let u := c.username.elim u (u.setUsername now)
  let u := c.email.elim u (u.setEmail now)
  let u := c.fullname.elim u (u.setFullname now)
  let u := c.active.elim u (u.setActive now)
  c.admin.elim u (u.setAdmin now)

def withSlug (f : Fresh) (slug : Option String) (u : User) : Errand (User × Bool) :=
  match slug with
  | none => pure (u, false)
  | some s =>
    if Text.blank s then do
      let slug ← availableSlug f (Slug.ofText u.username) (some u.id)
      return (u.setSlug f.now slug, true)
    else pure (u.setSlug f.now s, false)

def withPassword (h : Hasher) (now : Timestamp) (password : Option String) (u : User) : Errand User :=
  match password with
  | none => pure u
  | some p => do return u.setPasswordHash now (← Errand.ofExcept (h.hash p))

/-- A user as it is to be after a change, if nothing is wrong with it. An empty password is no
change. -/
def revision (h : Hasher) (f : Fresh) (c : Change) (found : User) : Errand User := do
  let (user, isDerived) ← withSlug f c.slug (withFields f.now c found)
  let password := c.password.filter fun p ↦ !p.isEmpty
  let errors := user.validate.check "password" ((password.bind Rule.password).map Breach.message)
  Errand.requireNone (← checkTaken user (probes isDerived) errors)
  withPassword h f.now password user

def update (h : Hasher) (f : Fresh) (reference : String) (c : Change) : Errand User := do
  Errand.ask (.updateUser (← revision h f c (← find reference)))

/-- The user with a name and password. Unknown names, wrong passwords and inactive accounts cannot be
told apart. -/
def authenticate (h : Hasher) (username password : String) : Errand User := do
  let refused := Fault.unauthorized "Wrong username or password"
  let user ← Errand.orFail refused (← Errand.ask (.userNamed username))
  if h.verify password user.passwordHash && user.active then pure user else throw refused

def delete (reference : String) : Errand Unit := do
  let user ← find reference
  if ← Errand.ask (.deleteUser user.id) then pure () else throw (.userNotFound reference)

/-- Sees to it that there is an active admin with these credentials. -/
def ensureAdmin (h : Hasher) (f : Fresh) (username password email : String) : Errand User := do
  match ← Errand.ask (.userNamed username) with
  | some user =>
    let change : Change :=
      { email := some email, password := some password, active := some true, admin := some true }
    update h f user.id.text change
  | none => create h f ⟨username, password, email, some "Admin", none, true, true⟩

end Roster.Accounts
