import Roster.Text.Blank

namespace Roster

structure ServerPool where
  url : String
  maxConnections : Nat
  minConnections : Nat := 1
  connectTimeout : Nat := 30
  idleTimeout : Nat := 600
  deriving DecidableEq, Repr

inductive Storage where
  | inMemory
  | server (pool : ServerPool)
  deriving DecidableEq, Repr

/-- A blank address means in memory. -/
def Storage.ofUrl (url : String) (maxConnections : Nat) : Storage :=
  if Text.blank url then inMemory else server { url := url, maxConnections := maxConnections }

end Roster
