import Roster.Proofs.Api.Calls
import Roster.Proofs.Store.Runs
import Roster.Startup

namespace Roster.Api

open Store (Call Tables)
open Http (Request)

/-- A request as it reaches the server, with what is drawn for it and the counters kept so far. -/
structure Visit where
  request : Request
  fresh : Fresh
  newId : String
  counted : Option Metrics.Registry

namespace Service

variable (s : Service) {t : Tables}

def answer (x : Visit) (t : Tables) : Exchange × Tables :=
  (s.exchange x.counted x.fresh x.newId x.request).run Tables.answer t

def start (settings : Settings) (f : Fresh) : Tables :=
  (perform (Startup.prepare settings s.hasher f) Tables.empty).2

def after (t : Tables) (visits : List Visit) : Tables :=
  visits.foldl (fun t x ↦ (s.answer x t).2) t

def drawn (f : Fresh) (visits : List Visit) : List UserId :=
  f.userId :: visits.map (·.fresh.userId)

theorem drawn_append (f : Fresh) (visits later : List Visit) :
    drawn f (visits ++ later) = drawn f visits ++ later.map (·.fresh.userId) := by
  rw [drawn, drawn, List.map_append, List.cons_append]

theorem after_append (t : Tables) (visits later : List Visit) :
    s.after t (visits ++ later) = s.after (s.after t visits) later :=
  List.foldl_append ..

theorem prepare_createsFresh (settings : Settings) (f : Fresh) :
    Puts (Call.CreatesFresh f) (Startup.prepare settings s.hasher f) := by
  unfold Startup.prepare
  split
  · exact .bind (Accounts.ensureAdmin_createsFresh ..) fun _ _ ↦ .pure trivial
  · exact .pure trivial

theorem reachable_start (settings : Settings) (f : Fresh) : (s.start settings f).Reachable :=
  Tables.Reachable.empty.perform
    ((s.prepare_createsFresh settings f).mono Call.CreatesFresh.ownerFits fun _ ↦ id)

theorem reachable_answer (x : Visit) (ht : t.Reachable) : (s.answer x t).2.Reachable :=
  ht.run (s.exchange_ownerFits ..)

theorem reachable_after (ht : t.Reachable) (visits : List Visit) :
    (s.after t visits).Reachable := by
  induction visits generalizing t with
  | nil => exact ht
  | cons x visits ih => exact ih (s.reachable_answer x ht)

/-- Calls that create no user but under a fresh id leave any other absent id absent. -/
theorem absent_of_createsFresh {f : Fresh} {id : UserId} (hid : f.userId ≠ id) (c : Call)
    (t : Tables) (hc : c.CreatesFresh f) (ht : t.users.get? id.text = none) :
    (Tables.answer c t).2.users.get? id.text = none := by
  refine Tables.user_absent_answer ht ?_
  rintro u rfl
  have hu : u.id = f.userId := hc
  rwa [hu]

theorem absent_start (settings : Settings) {f : Fresh} {id : UserId} (hid : f.userId ≠ id) :
    (s.start settings f).users.get? id.text = none :=
  (s.prepare_createsFresh settings f).perform_keeps (absent_of_createsFresh hid)
    (Store.Table.get?_empty _)

theorem absent_answer {x : Visit} {id : UserId} (hid : x.fresh.userId ≠ id)
    (ht : t.users.get? id.text = none) : (s.answer x t).2.users.get? id.text = none := by
  have hasks : (s.exchange x.counted x.fresh x.newId x.request).Asks
      (Call.CreatesFresh x.fresh) :=
    (s.exchange_writesLast ..).asks (fun _ ↦ Call.createsFresh_of_not_isWrite) fun _ h ↦ h
  exact hasks.run_keeps (J := fun t : Tables ↦ t.users.get? id.text = none)
    (absent_of_createsFresh hid) ht

theorem absent_after {visits : List Visit} {id : UserId}
    (hid : ∀ x ∈ visits, x.fresh.userId ≠ id) (ht : t.users.get? id.text = none) :
    (s.after t visits).users.get? id.text = none := by
  induction visits generalizing t with
  | nil => exact ht
  | cons x visits ih =>
    obtain ⟨hx, hvisits⟩ := List.forall_mem_cons.mp hid
    exact ih hvisits (s.absent_answer hx ht)

theorem mem_drawn_of_stored (settings : Settings) (f : Fresh) (visits : List Visit) {u : User}
    (hu : (s.after (s.start settings f) visits).users.get? u.id.text = some u) :
    u.id ∈ drawn f visits := by
  by_contra hnew
  rw [drawn, List.mem_cons, List.mem_map, not_or] at hnew
  obtain ⟨hstart, hvisits⟩ := hnew
  have habsent := s.absent_after (fun x hx h ↦ hvisits ⟨x, hx, h⟩)
    (s.absent_start settings (Ne.symm hstart))
  rw [hu] at habsent
  cases habsent

theorem not_drawn_again {settings : Settings} {f : Fresh} {visits later : List Visit}
    (hdrawn : (drawn f (visits ++ later)).Nodup) {u : User}
    (hu : (s.after (s.start settings f) visits).users.get? u.id.text = some u) :
    ∀ x ∈ later, x.fresh.userId ≠ u.id := by
  rw [drawn_append] at hdrawn
  intro x hx hid
  have hlater : u.id ∈ later.map (·.fresh.userId) := List.mem_map.mpr ⟨x, hx, hid⟩
  exact List.disjoint_of_nodup_append hdrawn (s.mem_drawn_of_stored settings f visits hu) hlater

end Service

end Roster.Api
