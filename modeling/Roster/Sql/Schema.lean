namespace Roster.Sql

structure Migration where
  version : Int
  description : String
  up : String
  down : String
  deriving DecidableEq, Repr

namespace Schema

def recordColumns : String :=
  "created_at TIMESTAMPTZ NOT NULL DEFAULT NOW(), updated_at TIMESTAMPTZ NOT NULL DEFAULT NOW()"

def users : Migration where
  version := 1
  description := "Create users table"
  up := "CREATE TABLE IF NOT EXISTS users ( id VARCHAR(36) PRIMARY KEY, " ++
    "slug VARCHAR(255) NOT NULL, username VARCHAR(255) NOT NULL, email VARCHAR(255) NOT NULL, " ++
    "fullname VARCHAR(255) NOT NULL DEFAULT '', password_hash VARCHAR(255) NOT NULL, " ++
    "active BOOLEAN NOT NULL DEFAULT FALSE, admin BOOLEAN NOT NULL DEFAULT FALSE, " ++
    s!"{recordColumns}, CONSTRAINT users_slug_key UNIQUE (slug), " ++
    "CONSTRAINT users_username_key UNIQUE (username), CONSTRAINT users_email_key UNIQUE (email) );"
  down := "DROP TABLE IF EXISTS users;"

def circles (version : Int) (plural : String) : Migration where
  version := version
  description := s!"Create {plural} table"
  up := s!"CREATE TABLE IF NOT EXISTS {plural} ( id VARCHAR(36) PRIMARY KEY, " ++
    s!"slug VARCHAR(255) NOT NULL, name VARCHAR(255) NOT NULL, {recordColumns}, " ++
    s!"CONSTRAINT {plural}_slug_key UNIQUE (slug), CONSTRAINT {plural}_name_key UNIQUE (name) );"
  down := s!"DROP TABLE IF EXISTS {plural};"

def memberships (version : Int) (name plural : String) : Migration where
  version := version
  description := s!"Create user_{plural} table"
  up := s!"CREATE TABLE IF NOT EXISTS user_{plural} ( user_id VARCHAR(36) NOT NULL, " ++
    s!"{name}_id VARCHAR(36) NOT NULL, perm VARCHAR(32) NOT NULL, {recordColumns}, " ++
    s!"CONSTRAINT user_{plural}_pkey PRIMARY KEY (user_id, {name}_id), " ++
    s!"CONSTRAINT user_{plural}_user_id_fkey FOREIGN KEY (user_id) REFERENCES users (id) " ++
    s!"ON DELETE CASCADE, CONSTRAINT user_{plural}_{name}_id_fkey FOREIGN KEY ({name}_id) " ++
    s!"REFERENCES {plural} (id) ON DELETE CASCADE ); CREATE INDEX IF NOT EXISTS " ++
    s!"idx_user_{plural}_{name}_id ON user_{plural}({name}_id);"
  down := s!"DROP TABLE IF EXISTS user_{plural};"

def migrations : List Migration :=
  [users, circles 2 "groups", circles 3 "teams", memberships 4 "group" "groups",
   memberships 5 "team" "teams"]

end Schema

end Roster.Sql
