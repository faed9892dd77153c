import Roster.Accounts
import Roster.Api.Access
import Roster.Settings
import Roster.Storage

namespace Roster.Startup

def storage (s : Settings) : Storage :=
  .ofUrl s.database.url s.database.maxConnections

/-- The signer of tokens; a random secret serves where none is set. -/
def signer (s : Settings) (random : String) : Signer where
  secret := Bytes.ofText (if s.token.secret.isEmpty then random else s.token.secret)
  sessionLife := .ofSeconds s.token.sessionLife

def service (s : Settings) (h : Hasher) (random : String) : Api.Service :=
  ⟨h, signer s random⟩

def prepare (s : Settings) (h : Hasher) (f : Fresh) : Errand Unit := do
  if s.admin.create then
    let _ ← Accounts.ensureAdmin h f s.admin.username s.admin.password s.admin.email

end Roster.Startup
