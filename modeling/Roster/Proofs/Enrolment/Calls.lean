import Roster.Enrolment
import Roster.Proofs.Accounts.Calls
import Roster.Proofs.Circles.Calls

namespace Roster.Enrolment

open Store (Call)

variable {α β : Type} {P : Call → Prop} (k : Kind)

theorem resolve_reads (userRef circleRef : String) : Puts Reads (resolve k userRef circleRef) :=
  .bind (Accounts.find_reads _) fun _ _ ↦ .bind (Circles.find_reads _ _) fun _ _ ↦ .pure trivial

theorem checked_puts {isRefused : Bool} {f : Fault} {p : Except Fault Permission}
    {g : Permission → β} :
    Puts P (do
      if isRefused then throw f
      let p ← Errand.ofExcept p
      return g p) := by
  cases isRefused with
  | true => exact .throw f
  | false => exact .bind (.ofExcept p) fun p _ ↦ .pure trivial

theorem attempting_writesLast {action : Action} {before : Errand β} {write : β → Errand α}
    (hb : Puts Looks before) (hw : ∀ b, WritesLast P (·.isOk = true) (write b).run) :
    WritesLast P (·.result.isOk = true) (attempting k action before write) := by
  refine .bind_looks hb.asks ?_
  rintro (x | b) -
  · trivial
  · exact (hw b).bind_done fun result ↦ ⟨_, rfl, id⟩

theorem member_writesLast {c : Call} {g : c.Result → Member} (hc : P c) :
    WritesLast P (·.isOk = true) (do return g (← Errand.ask c) : Errand Member).run :=
  .ask_bind hc fun m ↦ ⟨.ok (g m), rfl, .inr rfl⟩

theorem attach_writesLast (hP : ∀ m, P (.insertMembership k m)) (now : Timestamp)
    (userRef circleRef : String) (p : Option String) :
    WritesLast P (·.result.isOk = true) (attach k now userRef circleRef p) := by
  refine attempting_writesLast k ?_ fun b ↦ member_writesLast (hP _)
  exact .bind (resolve_reads k _ _).looks fun b _ ↦ .bind (.ask rfl) fun row _ ↦ checked_puts

theorem permit_writesLast (hP : ∀ u c p now, P (.updatePermission k u c p now)) (now : Timestamp)
    (userRef circleRef : String) (p : Option String) :
    WritesLast P (·.result.isOk = true) (permit k now userRef circleRef p) := by
  refine attempting_writesLast k ?_ fun b ↦ member_writesLast (hP _ _ _ _)
  exact .bind (resolve_reads k _ _).looks fun b _ ↦ .bind (.ask rfl) fun row _ ↦ checked_puts

theorem drop_writesLast (hP : ∀ u c, P (.deleteMembership k u c)) (userRef circleRef : String) :
    WritesLast P (·.result.isOk = true) (drop k userRef circleRef) :=
  attempting_writesLast k (resolve_reads k _ _).looks fun _ ↦ .ask (hP _ _)

theorem membersOf_looks (circleRef : String) (l : Listing) :
    Puts Looks (membersOf k circleRef l) :=
  .bind (Circles.find_reads _ _).looks fun _ _ ↦ .ask rfl

theorem circlesOf_looks (userRef : String) (l : Listing) : Puts Looks (circlesOf k userRef l) :=
  .bind (Accounts.find_reads _).looks fun _ _ ↦ .ask rfl

end Roster.Enrolment
