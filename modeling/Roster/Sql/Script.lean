import Roster.Sql.Statement

namespace Roster.Sql

structure Reply where
  result : Except Refusal Answer
  control : Option Statement := none

structure Script where
  replies : List Reply
  received : List Statement := []

namespace Script

def nothing : Except Refusal Answer :=
  .ok ⟨[], 0⟩

def isControl : Statement → Bool
  | .query .. | .script _ => false
  | .begin | .commit | .rollback => true

/-- Answers with the next reply. Transaction statements succeed without using up a reply unless the
next one is meant for them, and there is no row once the script has ended. -/
def answer (s : Statement) (x : Script) : Except Refusal Answer × Script :=
  let received := x.received ++ [s]
  match x.replies with
  | [] => (nothing, ⟨[], received⟩)
  | r :: rest =>
    if isControl s && r.control != some s then (nothing, ⟨r :: rest, received⟩)
    else (r.result, ⟨rest, received⟩)

end Script

end Roster.Sql
