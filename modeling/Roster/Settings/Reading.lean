import Roster.Binary64.Shortest
import Roster.Settings
import Roster.Settings.Source

namespace Roster.Settings

open Text

abbrev Reading (α : Type) := Value → Except Misuse α

namespace Reading

def text : Reading String
  | .text s => .ok s
  | .bool b => .ok (toString b)
  | .int n => .ok (toString n)
  | .float x => .ok x.text
  | _ => .error .wrongType

def ofWord? (s : String) : Option Bool :=
  let s := lowercase s
  if ["true", "on", "yes"].contains s then some true
  else if ["false", "off", "no"].contains s then some false
  else none

def bool : Reading Bool
  | .bool b => .ok b
  | .int n => .ok (n != 0)
  | .float x => .ok !x.isZero
  | .text s =>
    if s == "1" then .ok true else if s == "0" then .ok false
    else (ofWord? s).elim (.error .wrongType) .ok
  | _ => .error .wrongType

def word64 : Reading Nat
  | .bool b => .ok b.toNat
  | .int n => if n < 0 then .error .wrongType else .ok n.toNat
  | .float x => .ok (x.toNat (UInt64.size - 1))
  | .text s =>
    match ofWord? s with
    | some b => .ok b.toNat
    | none => (natUpTo? (UInt64.size - 1) s).elim (.error .wrongType) .ok
  | _ => .error .wrongType

def natural (bits : Nat) : Reading Nat := fun v ↦ do
  let n ← word64 v
  if n < 1 <<< bits then return n else throw .wrongType

def logFormat : Reading LogFormat := fun v ↦
  let name := match v with
    | .text s => some s
    | .table [(s, _)] => some s
    | _ => none
  match name.map lowercase with
  | some "pretty" => .ok .pretty
  | some "json" => .ok .json
  | _ => .error .wrongShape

/-- How the fields of a record are found: by name in a table, by position in a list. -/
abbrev Fields := Nat → String → Option Value

def fields : Value → Except Misuse Fields
  | .table entries => .ok fun _ name ↦ entries.lookup name
  | .list items => .ok fun n _ ↦ items[n]?
  | _ => .error .wrongShape

variable {α : Type}

def Fields.get (f : Fields) (n : Nat) (name : String) (r : Reading α) (fallback : α) :
    Except Misuse α :=
  (f n name).elim (.ok fallback) r

def server : Reading Settings.Server := fun v ↦ do
  let f ← fields v
  let d : Settings.Server := {}
  return ⟨← f.get 0 "host" text d.host, ← f.get 1 "port" (natural 16) d.port,
    ← f.get 2 "request_timeout_secs" word64 d.requestTimeout⟩

def logging : Reading Settings.Logging := fun v ↦ do
  let f ← fields v
  let d : Settings.Logging := {}
  return ⟨← f.get 0 "level" text d.level, ← f.get 1 "format" logFormat d.format⟩

def database : Reading Settings.Database := fun v ↦ do
  let f ← fields v
  let d : Settings.Database := {}
  return ⟨← f.get 0 "url" text d.url, ← f.get 1 "max_connections" (natural 32) d.maxConnections⟩

def token : Reading Settings.Token := fun v ↦ do
  let f ← fields v
  let d : Settings.Token := {}
  return ⟨← f.get 0 "secret" text d.secret, ← f.get 1 "session_expire_secs" word64 d.sessionLife⟩

def admin : Reading Settings.Admin := fun v ↦ do
  let f ← fields v
  let d : Settings.Admin := {}
  return ⟨← f.get 0 "create" bool d.create, ← f.get 1 "username" text d.username,
    ← f.get 2 "password" text d.password, ← f.get 3 "email" text d.email⟩

def metrics : Reading Settings.Metrics := fun v ↦ do
  let f ← fields v
  let d : Settings.Metrics := {}
  return ⟨← f.get 0 "enabled" bool d.enabled⟩

def settings : Reading Settings := fun v ↦ do
  let f ← fields v
  return ⟨← f.get 0 "server" server {}, ← f.get 1 "logging" logging {},
    ← f.get 2 "database" database {}, ← f.get 3 "token" token {}, ← f.get 4 "admin" admin {},
    ← f.get 5 "metrics" metrics {}⟩

end Reading

def load (files environment : List (String × String)) : Except Misuse Settings := do
  Reading.settings (← gather files environment)

end Roster.Settings
