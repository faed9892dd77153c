import Roster.Fresh
import Roster.Store

namespace Roster.Circles

structure NewCircle where
  name : String
  slug : Option String
  deriving DecidableEq, Repr

/-- What is to change about a circle; what is absent stays. -/
structure Change where
  name : Option String
  slug : Option String
  deriving DecidableEq, Repr

variable (k : Kind)

def get (id : CircleId) : Errand Circle := do
  Errand.orFail (.circleNotFound k id.text) (← Errand.ask (.getCircle k id))

def find (reference : String) : Errand Circle := do
  Errand.orFail (.circleNotFound k reference) (← Errand.ask (.findCircle k reference))

def list (l : Listing) : Errand (Page Circle) :=
  Errand.ask (.listCircles k l)

def count : Errand Nat :=
  Errand.ask (.countCircles k)

def firstFree (except : Option CircleId) : List String → Errand String
  | [] => throw (.field "slug" Breach.taken.message)
  | s :: rest => do
    if ← Errand.ask (.isCircleTaken k .slug s except) then firstFree except rest else pure s

def availableSlug (f : Fresh) (base : String) (except : Option CircleId) : Errand String :=
  if base == "" then pure base else firstFree k except (base :: f.candidates base)

def checkTaken (c : Circle) : List Circle.Key → FieldErrors → Errand FieldErrors
  | [], errors => pure errors
  | key :: rest, errors => do
    if errors.hasField key.text then checkTaken c rest errors
    else if ← Errand.ask (.isCircleTaken k key (c.get key) (some c.id)) then
      checkTaken c rest (errors.add key.text Breach.taken.message)
    else checkTaken c rest errors

def probes (isDerived : Bool) : List Circle.Key :=
  if isDerived then [.name] else [.slug, .name]

def slugOf (f : Fresh) (given : Option String) (base : String) : Errand String :=
  match given with
  | some s => pure s
  | none => availableSlug k f base none

def draft (f : Fresh) (r : NewCircle) : Errand Circle := do
  let circle := Circle.new f.circleId f.now r.name
  let given := r.slug.filter fun s ↦ !Text.blank s
  let slug ← slugOf k f given circle.slug
  let circle := { circle with slug := slug }
  Errand.requireNone (← checkTaken k circle (probes given.isNone) circle.validate)
  return circle

/-- Creates a circle; its owner, if any, becomes a member with the permission `owner`. -/
def create (f : Fresh) (r : NewCircle) (owner : Option UserId) : Errand Circle := do
  let circle ← draft k f r
  Errand.ask (.createCircle k circle (owner.map fun u ↦ Membership.new u circle.id .owner f.now))

def withSlug (f : Fresh) (slug : Option String) (c : Circle) : Errand (Circle × Bool) :=
  match slug with
  | none => pure (c, false)
  | some s =>
    if Text.blank s then do
      let slug ← availableSlug k f (Slug.ofText c.name) (some c.id)
      return (c.setSlug f.now slug, true)
    else pure (c.setSlug f.now s, false)

def revision (f : Fresh) (c : Change) (found : Circle) : Errand Circle := do
  let (circle, isDerived) ← withSlug k f c.slug (c.name.elim found (found.setName f.now))
  Errand.requireNone (← checkTaken k circle (probes isDerived) circle.validate)
  return circle

def update (f : Fresh) (reference : String) (c : Change) : Errand Circle := do
  Errand.ask (.updateCircle k (← revision k f c (← find k reference)))

def delete (reference : String) : Errand Unit := do
  let circle ← find k reference
  if ← Errand.ask (.deleteCircle k circle.id) then pure () else throw (.circleNotFound k reference)

end Roster.Circles
