import Roster.Api.Access
import Roster.Api.Body
import Roster.Api.Health
import Roster.Api.Resource
import Roster.Api.View
import Roster.Metrics

namespace Roster.Api.Service

open Handler (ofErrand take showing telling enrolling)
open Http (Request Response)

variable (s : Service) (f : Fresh) (r : Request)

def readiness : Handler Reply :=
  ExceptT.mk (Accounts.count.run.bind fun counted ↦
    let failure := match counted with
      | .ok _ => none
      | .error fault => some fault.message
    .done (.ok ⟨.json (if failure.isNone then 200 else 503) (Health.ready failure 0).toJson, none⟩))

/-- The counters as text; nothing is shown if they are not kept. -/
def metrics (counted : Option Metrics.Registry) : Handler Reply :=
  match counted with
  | some registry =>
    return ⟨⟨200, some "text/plain; version=0.0.4", .text registry.text, none⟩, none⟩
  | none => return ⟨Notification.response ⟨"Metrics are disabled", 404, none⟩, none⟩

def login : Handler Reply := do
  let b ← take (Input.body Body.login r)
  let user ← ofErrand (Accounts.authenticate s.hasher b.username b.password)
  return ⟨.json 200 (s.signer.issueSession user.id.text f.now).toJson, none⟩

def refresh : Handler Reply := do
  let user ← s.principal f.now r
  return ⟨.json 200 (s.signer.issueSession user.id.text f.now).toJson, none⟩

def verification : Handler Reply := do
  let user ← s.principal f.now r
  return ⟨.json 200 (.object [("username", .text user.username),
    ("created_at", user.createdAt.toJson)]), none⟩

def showProfile : Handler Reply := do
  let user ← s.principal f.now r
  return ⟨.json 200 user.view, none⟩

def changeProfile : Handler Reply := do
  let user ← s.principal f.now r
  let change ← take (Input.body Body.profileChange r)
  showing (Accounts.update s.hasher f user.id.text change) User.view

def personalToken : Handler Reply := do
  let user ← s.principal f.now r
  return ⟨.json 200 (s.signer.issueUnlimited user.id.text f.now).toJson, none⟩

def users : Verb → Handler Reply
  | .get => do
    let _ ← s.admin f.now r
    let l ← take (Input.listing r)
    showing (Accounts.list l) (·.view "users" User.view l)
  | _ => do
    let _ ← s.admin f.now r
    let b ← take (Input.body Body.newUser r)
    showing (Accounts.create s.hasher f b) User.view

def user (segment : String) : Verb → Handler Reply
  | .get => do
    let _ ← s.admin f.now r
    showing (Accounts.find (← take (Input.identifier segment))) User.view
  | .delete => do
    let _ ← s.admin f.now r
    telling (Accounts.delete (← take (Input.identifier segment))) "Successfully deleted user"
  | _ => do
    let _ ← s.admin f.now r
    let id ← take (Input.identifier segment)
    let change ← take (Input.body Body.userChange r)
    showing (Accounts.update s.hasher f id change) User.view

variable (k : Kind)

/-- The collection of circles of a kind. The admin who creates one becomes its owner. -/
def circles : Verb → Handler Reply
  | .get => do
    let _ ← s.admin f.now r
    let l ← take (Input.listing r)
    showing (Circles.list k l) (·.view k.plural Circle.toJson l)
  | _ => do
    let admin ← s.admin f.now r
    let b ← take (Input.body Body.newCircle r)
    showing (Circles.create k f b (some admin.id)) Circle.toJson

def circle (segment : String) : Verb → Handler Reply
  | .get => do
    let _ ← s.admin f.now r
    showing (Circles.find k (← take (Input.identifier segment))) Circle.toJson
  | .delete => do
    let _ ← s.admin f.now r
    telling (Circles.delete k (← take (Input.identifier segment)))
      s!"Successfully deleted {k.name}"
  | _ => do
    let _ ← s.admin f.now r
    let id ← take (Input.identifier segment)
    let change ← take (Input.body Body.circleChange r)
    showing (Circles.update k f id change) Circle.toJson

def members (segment : String) : Verb → Handler Reply
  | .get => do
    let _ ← s.admin f.now r
    let id ← take (Input.identifier segment)
    let l ← take (Input.listing r)
    showing (Enrolment.membersOf k id l) (·.view "users" (Member.view k) l)
  | .post => do
    let _ ← s.admin f.now r
    let id ← take (Input.identifier segment)
    let b ← take (Input.body Body.memberOfCircle r)
    enrolling (Enrolment.attach k f.now b.reference id b.permission)
      s!"Successfully attached user to {k.name}"
  | .put => do
    let _ ← s.admin f.now r
    let id ← take (Input.identifier segment)
    let b ← take (Input.body Body.memberOfCircle r)
    enrolling (Enrolment.permit k f.now b.reference id b.permission)
      s!"Successfully updated {k.name} permission"
  | .delete => do
    let _ ← s.admin f.now r
    let id ← take (Input.identifier segment)
    let b ← take (Input.body Body.memberOfCircle r)
    enrolling (Enrolment.drop k b.reference id) s!"Successfully dropped user from {k.name}"

def circlesOfUser (segment : String) : Verb → Handler Reply
  | .get => do
    let _ ← s.admin f.now r
    let id ← take (Input.identifier segment)
    let l ← take (Input.listing r)
    showing (Enrolment.circlesOf k id l) (·.view k.plural (Member.view k) l)
  | .post => do
    let _ ← s.admin f.now r
    let id ← take (Input.identifier segment)
    let b ← take (Input.body Body.circleOfUser r)
    enrolling (Enrolment.attach k f.now id b.reference b.permission)
      s!"Successfully attached {k.name} to user"
  | .put => do
    let _ ← s.admin f.now r
    let id ← take (Input.identifier segment)
    let b ← take (Input.body Body.circleOfUser r)
    enrolling (Enrolment.permit k f.now id b.reference b.permission)
      s!"Successfully updated {k.name} permission"
  | .delete => do
    let _ ← s.admin f.now r
    let id ← take (Input.identifier segment)
    let b ← take (Input.body Body.circleOfUser r)
    enrolling (Enrolment.drop k id b.reference) s!"Successfully dropped {k.name} from user"

/-- What a resource does. Access is settled before anything else of the request is looked at, then the
path, then the query, then the body. -/
def handle (counted : Option Metrics.Registry) : Resource → Verb → Handler Reply
  | .health, _ => return ⟨.json 200 Health.alive.toJson, none⟩
  | .ready, _ => readiness
  | .live, _ => return ⟨.bare 200, none⟩
  | .metrics, _ => metrics counted
  | .login, _ => s.login f r
  | .refresh, _ => s.refresh f r
  | .verification, _ => s.verification f r
  | .profile, .get => s.showProfile f r
  | .profile, _ => s.changeProfile f r
  | .personalToken, _ => s.personalToken f r
  | .users, v => s.users f r v
  | .user id, v => s.user f r id v
  | .circlesOfUser k id, v => s.circlesOfUser f r k id v
  | .circles k, v => s.circles f r k v
  | .circle k id, v => s.circle f r k id v
  | .members k id, v => s.members f r k id v

end Roster.Api.Service
