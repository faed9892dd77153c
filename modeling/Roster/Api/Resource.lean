import Roster.Http.Header
import Roster.Kind
import Roster.Text.Pieces

namespace Roster.Api

/-- Resources. Identifiers stand as they are written in the path. -/
inductive Resource where
  | health
  | ready
  | live
  | metrics
  | login
  | refresh
  | verification
  | profile
  | personalToken
  | users
  | user (id : String)
  | circlesOfUser (k : Kind) (id : String)
  | circles (k : Kind)
  | circle (k : Kind) (id : String)
  | members (k : Kind) (id : String)
  deriving DecidableEq, Repr

inductive Verb where
  | get
  | post
  | put
  | delete
  deriving DecidableEq, Repr

namespace Verb

def ofMethod? (m : Http.Method) : Option Verb :=
  match m.name with
  | "GET" | "HEAD" => some get
  | "POST" => some post
  | "PUT" => some put
  | "DELETE" => some delete
  | _ => none

def text : Verb → String
  | get => "GET,HEAD"
  | post => "POST"
  | put => "PUT"
  | delete => "DELETE"

end Verb

def kindOfPlural? (s : String) : Option Kind :=
  Kind.all.find? (·.plural == s)

namespace Resource

def ofSegments? : List String → Option Resource
  | ["health"] => some health
  | ["ready"] => some ready
  | ["live"] => some live
  | ["metrics"] => some metrics
  | ["auth", "login"] => some login
  | ["auth", "refresh"] => some refresh
  | ["auth", "verify"] => some verification
  | ["profile", "self"] => some profile
  | ["profile", "token"] => some personalToken
  | ["users"] => some users
  | ["users", id] => if id == "" then none else some (user id)
  | ["users", id, plural] =>
    if id == "" then none else (kindOfPlural? plural).map (circlesOfUser · id)
  | [plural] => (kindOfPlural? plural).map circles
  | [plural, id] => if id == "" then none else (kindOfPlural? plural).map (circle · id)
  | [plural, id, "users"] => if id == "" then none else (kindOfPlural? plural).map (members · id)
  | _ => none

def ofPath? (path : String) : Option Resource :=
  match Text.splitAll (· == '/') path.toList with
  | [] :: segments => ofSegments? (segments.map String.ofList)
  | _ => none

def pattern : Resource → String
  | health => "/health"
  | ready => "/ready"
  | live => "/live"
  | metrics => "/metrics"
  | login => "/auth/login"
  | refresh => "/auth/refresh"
  | verification => "/auth/verify"
  | profile => "/profile/self"
  | personalToken => "/profile/token"
  | users => "/users"
  | user _ => "/users/\x7bid\x7d"
  | circlesOfUser k _ => "/users/\x7bid\x7d/" ++ k.plural
  | circles k => "/" ++ k.plural
  | circle k _ => "/" ++ k.plural ++ "/\x7bid\x7d"
  | members k _ => "/" ++ k.plural ++ "/\x7bid\x7d/users"

def verbs : Resource → List Verb
  | health | ready | live | metrics | refresh | verification | personalToken => [.get]
  | login => [.post]
  | profile => [.get, .put]
  | users | circles _ => [.get, .post]
  | user _ | circle .. => [.get, .put, .delete]
  | circlesOfUser .. | members .. => [.get, .post, .put, .delete]

def allowed (r : Resource) : String :=
  ",".intercalate (r.verbs.map Verb.text)

end Resource

end Roster.Api
