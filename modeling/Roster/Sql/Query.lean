import Roster.Fault
import Roster.Sql.Row

namespace Roster.Sql

def Trouble.toFault (t : Trouble) (action : String) : Fault :=
  .storage s!"Failed to {action}: {t.message}"

abbrev Query (α : Type) := ExceptT Fault (Dialogue interface) α

namespace Query

variable {α : Type}

def sendOr (explain : Refusal → Fault) (s : Statement) : Query Answer :=
  ExceptT.mk ((Dialogue.call (I := interface) s).bind fun r ↦ .done (r.mapError explain))

def send (action : String) (s : Statement) : Query Answer :=
  sendOr (fun r ↦ (Trouble.refused r).toFault action) s

def ofTrouble (action : String) (e : Except Trouble α) : Query α :=
  ExceptT.mk (.done (e.mapError (·.toFault action)))

def fetchOptional (action : String) (s : Statement) : Query (Option Row) := do
  return (← send action s).rows.head?

def scalar (action : String) (c : Cell α) (s : Statement) : Query α := do
  match ← fetchOptional action s with
  | some row => ofTrouble action (row.first c)
  | none => throw (Trouble.noRow.toFault action)

/-- Runs a query inside a transaction. Whatever fails after the beginning is rolled back. -/
def transaction (beginning commitment : String) (body : Query α) : Query α := do
  let _ ← send beginning .begin
  let guarded : Query α := do
    let a ← body
    let _ ← send commitment .commit
    return a
  ExceptT.mk (guarded.run.bind fun
    | .ok a => .done (.ok a)
    | .error f => (Dialogue.call (I := interface) .rollback).bind fun _ ↦ .done (.error f))

end Query

end Roster.Sql
