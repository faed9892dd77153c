import Roster.Duration

namespace Roster

namespace Settings

structure Server where
  host : String := "0.0.0.0"
  port : Nat := 8080
  requestTimeout : Nat := 30
  deriving DecidableEq, Repr

inductive LogFormat where
  | pretty
  | json
  deriving DecidableEq, Repr

def LogFormat.name : LogFormat → String
  | pretty => "pretty"
  | json => "json"

structure Logging where
  level : String := "info"
  format : LogFormat := .pretty
  deriving DecidableEq, Repr

/-- Where records are kept; an empty address means in memory. -/
structure Database where
  url : String := ""
  maxConnections : Nat := 10
  deriving DecidableEq, Repr

structure Token where
  /-- The secret that tokens are signed with; an empty one is replaced at every start. -/
  secret : String := ""
  /-- The life of a session in seconds; zero means without end. -/
  sessionLife : Nat := 3600
  deriving DecidableEq, Repr

structure Admin where
  create : Bool := true
  username : String := "admin"
  password : String := "admin-password"
  email : String := "admin@localhost"
  deriving DecidableEq, Repr

structure Metrics where
  enabled : Bool := true
  deriving DecidableEq, Repr

end Settings

structure Settings where
  server : Settings.Server := {}
  logging : Settings.Logging := {}
  database : Settings.Database := {}
  token : Settings.Token := {}
  admin : Settings.Admin := {}
  metrics : Settings.Metrics := {}
  deriving DecidableEq, Repr

end Roster
