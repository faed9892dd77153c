import Roster.Api.Notification
import Roster.Encoding.Base64
import Roster.Http.Header
import Roster.Text.Blank

namespace Roster.Api

open Http (Header Headers)

inductive Credentials where
  | bearer (token : String)
  | basic (username password : String)
  deriving DecidableEq, Repr

namespace Credentials

def unauthorized (message : String) : Notification :=
  ⟨message, 401, none⟩

def missing : Notification :=
  unauthorized "Authentication required. Provide 'Authorization: Bearer <token>'"

def malformed : Notification :=
  unauthorized "Malformed basic credentials"

/-- The name and password behind a base64 text: they are apart at the first colon. -/
def ofBasic? (encoded : String) : Option Credentials := do
  let decoded ← Bytes.toText? (← Base64.ofText? .standard (Text.trim encoded))
  let (username, password) ← Text.splitFirst (· == ':') decoded.toList
  return .basic (String.ofList username) (String.ofList password)

def ofValue (value : String) : Except Notification Credentials :=
  match Text.afterPrefix? "Bearer " value with
  | some token =>
    if Text.blank token then .error (unauthorized "Empty bearer token")
    else .ok (.bearer (Text.trim token))
  | none =>
    match Text.afterPrefix? "Basic " value with
    | some encoded => (ofBasic? encoded).elim (.error malformed) .ok
    | none => .error (unauthorized "Unsupported authorization scheme")

/-- The credentials in the first `Authorization` field. -/
def ofHeaders (headers : Headers) : Except Notification Credentials :=
  match headers.get? "authorization" with
  | none => .error missing
  | some h =>
    match h.text? with
    | none => .error ⟨"Invalid Authorization header encoding", 400, none⟩
    | some value => ofValue value

end Credentials

end Roster.Api
