import Roster.Accounts
import Roster.Api.Credentials
import Roster.Api.Handler
import Roster.Token

namespace Roster.Api

open Http (Request)

/-- What the service is set up with: how passwords are hashed and how tokens are signed. -/
structure Service where
  hasher : Hasher
  signer : Signer

namespace Service

variable (s : Service)

def refuse {α : Type} (message : String) : Handler α :=
  throw (Credentials.unauthorized message).response

def bearer (id : UserId) : Handler User := do
  let user ← ExceptT.mk ((Accounts.get id).run.bind fun
    | .ok u => .done (.ok u)
    | .error f => .done (.error (if f.cls = .notFound then
        (Credentials.unauthorized "Token subject no longer exists").response else faultResponse f)))
  if user.active then pure user else refuse "User account is inactive"

def principalOfToken (now : Timestamp) (token : String) : Handler User :=
  match s.signer.verify token now with
  | .error e => throw (faultResponse e.toFault)
  | .ok claims =>
    match UserId.ofText? claims.subject with
    | none => refuse "Invalid token subject"
    | some id => bearer id

def principal (now : Timestamp) (r : Request) : Handler User :=
  match Credentials.ofHeaders r.headers with
  | .error n => throw n.response
  | .ok (.bearer token) => s.principalOfToken now token
  | .ok (.basic username password) =>
    Handler.ofErrand (Accounts.authenticate s.hasher username password)

def admin (now : Timestamp) (r : Request) : Handler User := do
  let user ← s.principal now r
  if user.admin then pure user
  else throw (Notification.response ⟨"Only admins can access this resource", 403, none⟩)

end Service

end Roster.Api
