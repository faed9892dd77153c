import Roster.Sql.Query
import Roster.Sql.Schema

namespace Roster.Sql.Migration

def createTable : Statement :=
  .query ("CREATE TABLE IF NOT EXISTS _migrations ( version BIGINT PRIMARY KEY, " ++
    "description TEXT NOT NULL, installed_on TIMESTAMPTZ NOT NULL DEFAULT NOW() )") []

def ensureTable : Query Unit := do
  let _ ← Query.send "create migrations table" createTable

def isApplied (version : Int) : Query Bool :=
  Query.scalar "check migration status" .bool
    (.query "SELECT EXISTS(SELECT 1 FROM _migrations WHERE version = $1)" [.int version])

/-- Takes a step unless it has been taken; tells whether it was taken now. -/
def apply (m : Migration) : Query Bool := do
  ensureTable
  if ← isApplied m.version then return false
  Query.transaction "begin migration" "commit migration" do
    let _ ← Query.send s!"run migration {m.version}" (.script m.up)
    let _ ← Query.send s!"record migration {m.version}"
      (.query "INSERT INTO _migrations (version, description) VALUES ($1, $2)"
        [.int m.version, .text m.description])
    return true

def revert (m : Migration) : Query Bool := do
  ensureTable
  if !(← isApplied m.version) then return false
  Query.transaction "begin revert" "commit revert" do
    let _ ← Query.send s!"revert migration {m.version}" (.script m.down)
    let _ ← Query.send s!"remove migration record {m.version}"
      (.query "DELETE FROM _migrations WHERE version = $1" [.int m.version])
    return true

def current : Query (Option Int) := do
  ensureTable
  Query.scalar "get migration version" (Cell.int.nullable)
    (.query "SELECT MAX(version) FROM _migrations" [])

def applyAll : List Migration → Query Unit
  | [] => return ()
  | m :: rest => do
    let _ ← apply m
    applyAll rest

end Roster.Sql.Migration
