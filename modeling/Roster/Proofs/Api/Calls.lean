import Roster.Api.Server
import Roster.Proofs.Enrolment.Calls
import Roster.Proofs.Store.Integrity

namespace Roster.Api

open Store (Call)
open Handler (ofErrand take showing telling enrolling)
open Http (Request)

variable {α : Type} {P : Call → Prop} {Q : α → Prop}

theorem take_puts (e : Except Http.Response α) : Puts P (take e) :=
  ⟨by cases e <;> trivial⟩

theorem taking_puts {β : Type} {R : β → Prop} {e : Except Http.Response α} {next : α → Handler β}
    (h : ∀ a, Puts P (next a) R) : Puts P (take e >>= next) R :=
  .bind (take_puts e) fun a _ ↦ h a

theorem ofErrand_puts {e : Errand α} (he : Puts P e Q) : Puts P (ofErrand e) Q :=
  ⟨he.asks.bind fun
    | .ok _ => fun h ↦ h
    | .error _ => fun _ ↦ trivial⟩

theorem showing_puts {e : Errand α} {view : α → Json} (he : Puts P e) : Puts P (showing e view) :=
  .bind (ofErrand_puts he) fun _ _ ↦ .pure trivial

def Succeeds : Except Http.Response Reply → Prop
  | .ok reply => reply.response.status = 200
  | .error _ => False

section Replying

variable {e : Errand α}

theorem ofErrand_writesLast (he : WritesLast P (·.isOk = true) e.run) :
    WritesLast P (·.isOk = true) (ofErrand e).run :=
  he.bind_done fun r ↦ ⟨_, rfl, by cases r <;> exact id⟩

theorem showing_writesLast {view : α → Json} (he : WritesLast P (·.isOk = true) e.run) :
    WritesLast P Succeeds (showing e view).run := by
  refine (ofErrand_writesLast he).bind_done fun r ↦ ?_
  cases r with
  | ok a => exact ⟨_, rfl, fun _ ↦ rfl⟩
  | error response => exact ⟨_, rfl, nofun⟩

theorem telling_writesLast {message : String} (he : WritesLast P (·.isOk = true) e.run) :
    WritesLast P Succeeds (telling e message).run := by
  refine (ofErrand_writesLast he).bind_done fun r ↦ ?_
  cases r with
  | ok a => exact ⟨_, rfl, fun _ ↦ rfl⟩
  | error response => exact ⟨_, rfl, nofun⟩

theorem enrolling_writesLast {o : Enrolment.Operation α} {message : String}
    (ho : WritesLast P (·.result.isOk = true) o) :
    WritesLast P Succeeds (enrolling o message).run := by
  refine ho.bind_done fun outcome ↦ ⟨_, rfl, ?_⟩
  obtain ⟨result, attempt⟩ := outcome
  cases result with
  | ok a => exact fun _ ↦ rfl
  | error x => exact nofun

theorem reply_writesLast {h : Handler Reply} (hh : WritesLast P Succeeds h.run) :
    WritesLast P (·.response.status = 200) h.reply := by
  refine hh.bind_done fun r ↦ ?_
  cases r with
  | ok reply => exact ⟨_, rfl, id⟩
  | error response => exact ⟨_, rfl, nofun⟩

theorem taking_writesLast {e : Except Http.Response α} {next : α → Handler Reply}
    (h : ∀ a, WritesLast P Succeeds (next a).run) : WritesLast P Succeeds (take e >>= next).run :=
  .bind (take_puts e) fun a _ ↦ h a

end Replying

namespace Service

variable (s : Service) (f : Fresh) (r : Request)

section Access

variable (hget : ∀ id, P (.getUser id)) (hnamed : ∀ username, P (.userNamed username))

include hget

theorem bearer_puts (id : UserId) : Puts P (bearer id) := by
  refine .bind (Q := fun _ ↦ True) ⟨(Accounts.get_puts (hget id)).asks.bind ?_⟩ fun user _ ↦ ?_
  · rintro (x | u) - <;> trivial
  · split
    · exact .pure trivial
    · exact .throw _

theorem principalOfToken_puts (now : Timestamp) (token : String) :
    Puts P (s.principalOfToken now token) := by
  unfold principalOfToken
  split
  · exact .throw _
  · split
    · exact .throw _
    · exact bearer_puts hget _

include hnamed

/-- To find out who asks, a user is looked up under an id or a name, and nothing else. -/
theorem principal_puts (now : Timestamp) : Puts P (s.principal now r) := by
  unfold principal
  split
  · exact .throw _
  · exact s.principalOfToken_puts hget now _
  · exact ofErrand_puts (Accounts.authenticate_puts _ _ (hnamed _))

theorem admin_puts (now : Timestamp) : Puts P (s.admin now r) := by
  refine .bind (s.principal_puts r hget hnamed now) fun user _ ↦ ?_
  split
  · exact .pure trivial
  · exact .throw _

end Access

theorem principal_reads (now : Timestamp) : Puts Reads (s.principal now r) :=
  s.principal_puts r (fun _ ↦ rfl) (fun _ ↦ rfl) now

theorem admin_reads (now : Timestamp) : Puts Reads (s.admin now r) :=
  s.admin_puts r (fun _ ↦ rfl) (fun _ ↦ rfl) now

variable (k : Kind) (v : Verb) (segment : String)

theorem admitting_writesLast {next : User → Handler Reply}
    (h : ∀ u, WritesLast P Succeeds (next u).run) :
    WritesLast P Succeeds (s.admin f.now r >>= next).run :=
  .bind (s.admin_reads r f.now).looks fun u _ ↦ h u

theorem users_writesLast (hv : v ≠ .get) :
    WritesLast (Call.CreatesFresh f) Succeeds (s.users f r v).run := by
  cases v with
  | get => exact absurd rfl hv
  | _ =>
    exact s.admitting_writesLast f r fun _ ↦ taking_writesLast fun b ↦
      showing_writesLast (Accounts.create_writesLast _ _ _)

theorem user_writesLast (hv : v ≠ .get) :
    WritesLast (Call.CreatesFresh f) Succeeds (s.user f r segment v).run := by
  cases v with
  | get => exact absurd rfl hv
  | delete =>
    exact s.admitting_writesLast f r fun _ ↦ taking_writesLast fun id ↦
      telling_writesLast (Accounts.delete_writesLast (fun _ ↦ trivial) id)
  | _ =>
    exact s.admitting_writesLast f r fun _ ↦ taking_writesLast fun id ↦
      taking_writesLast fun c ↦ showing_writesLast (Accounts.update_writesLast _ _ _ _)

theorem circles_writesLast (hv : v ≠ .get) :
    WritesLast (Call.CreatesFresh f) Succeeds (s.circles f r k v).run := by
  cases v with
  | get => exact absurd rfl hv
  | _ =>
    exact s.admitting_writesLast f r fun a ↦ taking_writesLast fun b ↦
      showing_writesLast (Circles.create_writesLast _ _ _ _)

theorem circle_writesLast (hv : v ≠ .get) :
    WritesLast (Call.CreatesFresh f) Succeeds (s.circle f r k segment v).run := by
  cases v with
  | get => exact absurd rfl hv
  | delete =>
    exact s.admitting_writesLast f r fun _ ↦ taking_writesLast fun id ↦
      telling_writesLast (Circles.delete_writesLast k (fun _ ↦ trivial) id)
  | _ =>
    exact s.admitting_writesLast f r fun _ ↦ taking_writesLast fun id ↦
      taking_writesLast fun c ↦ showing_writesLast (Circles.update_writesLast _ _ _ _)

theorem members_writesLast (hv : v ≠ .get) :
    WritesLast (Call.CreatesFresh f) Succeeds (s.members f r k segment v).run := by
  cases v with
  | get => exact absurd rfl hv
  | post =>
    exact s.admitting_writesLast f r fun _ ↦ taking_writesLast fun id ↦ taking_writesLast fun b ↦
      enrolling_writesLast (Enrolment.attach_writesLast k (fun _ ↦ trivial) _ _ _ _)
  | put =>
    exact s.admitting_writesLast f r fun _ ↦ taking_writesLast fun id ↦ taking_writesLast fun b ↦
      enrolling_writesLast (Enrolment.permit_writesLast k (fun _ _ _ _ ↦ trivial) _ _ _ _)
  | delete =>
    exact s.admitting_writesLast f r fun _ ↦ taking_writesLast fun id ↦ taking_writesLast fun b ↦
      enrolling_writesLast (Enrolment.drop_writesLast k (fun _ _ ↦ trivial) _ _)

theorem circlesOfUser_writesLast (hv : v ≠ .get) :
    WritesLast (Call.CreatesFresh f) Succeeds (s.circlesOfUser f r k segment v).run := by
  cases v with
  | get => exact absurd rfl hv
  | post =>
    exact s.admitting_writesLast f r fun _ ↦ taking_writesLast fun id ↦ taking_writesLast fun b ↦
      enrolling_writesLast (Enrolment.attach_writesLast k (fun _ ↦ trivial) _ _ _ _)
  | put =>
    exact s.admitting_writesLast f r fun _ ↦ taking_writesLast fun id ↦ taking_writesLast fun b ↦
      enrolling_writesLast (Enrolment.permit_writesLast k (fun _ _ _ _ ↦ trivial) _ _ _ _)
  | delete =>
    exact s.admitting_writesLast f r fun _ ↦ taking_writesLast fun id ↦ taking_writesLast fun b ↦
      enrolling_writesLast (Enrolment.drop_writesLast k (fun _ _ ↦ trivial) _ _)

theorem handle_reads (counted : Option Metrics.Registry) {resource : Resource}
    (h : resource ∈ [.health, .ready, .live, .metrics, .login, .refresh, .verification,
      .personalToken]) : Puts Reads (s.handle f r counted resource v) := by
  simp only [List.mem_cons, List.not_mem_nil, or_false] at h
  rcases h with rfl | rfl | rfl | rfl | rfl | rfl | rfl | rfl
  · exact .pure trivial
  · exact ⟨(Puts.ask (P := Reads) (c := .countUsers) rfl).asks.bind fun _ _ ↦ trivial⟩
  · exact .pure trivial
  · cases counted <;> exact .pure trivial
  · exact taking_puts fun b ↦
      .bind (ofErrand_puts (Accounts.authenticate_puts _ _ rfl)) fun u _ ↦ .pure trivial
  · exact .bind (s.principal_reads r f.now) fun u _ ↦ .pure trivial
  · exact .bind (s.principal_reads r f.now) fun u _ ↦ .pure trivial
  · exact .bind (s.principal_reads r f.now) fun u _ ↦ .pure trivial

theorem handle_get_looks (counted : Option Metrics.Registry) (resource : Resource) :
    Puts Looks (s.handle f r counted resource .get) := by
  have hadmin := (s.admin_reads r f.now).looks
  cases resource with
  | profile => exact .bind (s.principal_reads r f.now).looks fun u _ ↦ .pure trivial
  | users => exact .bind hadmin fun _ _ ↦ taking_puts fun l ↦ showing_puts (.ask rfl)
  | user id =>
    exact .bind hadmin fun _ _ ↦ taking_puts fun id ↦ showing_puts (Accounts.find_reads id).looks
  | circlesOfUser k id =>
    exact .bind hadmin fun _ _ ↦ taking_puts fun id ↦ taking_puts fun l ↦
      showing_puts (Enrolment.circlesOf_looks k id l)
  | circles k => exact .bind hadmin fun _ _ ↦ taking_puts fun l ↦ showing_puts (.ask rfl)
  | circle k id =>
    exact .bind hadmin fun _ _ ↦ taking_puts fun id ↦ showing_puts (Circles.find_reads k id).looks
  | members k id =>
    exact .bind hadmin fun _ _ ↦ taking_puts fun id ↦ taking_puts fun l ↦
      showing_puts (Enrolment.membersOf_looks k id l)
  | _ => exact (s.handle_reads f r .get counted (by simp)).looks

/-- Whatever is asked of a resource, it writes at the end or not at all, and reports success only if
that went well. -/
theorem handle_writesLast (counted : Option Metrics.Registry) (resource : Resource) :
    WritesLast (Call.CreatesFresh f) Succeeds (s.handle f r counted resource v).run := by
  by_cases hv : v = .get
  · subst hv
    exact .of_looks (s.handle_get_looks f r counted resource).asks
  cases resource with
  | profile =>
    have hprincipal := (s.principal_reads r f.now).looks
    cases v with
    | get => exact absurd rfl hv
    | _ =>
      exact .bind hprincipal fun u _ ↦ taking_writesLast fun c ↦
        showing_writesLast (Accounts.update_writesLast _ _ _ _)
  | users => exact s.users_writesLast f r v hv
  | user id => exact s.user_writesLast f r v id hv
  | circlesOfUser k id => exact s.circlesOfUser_writesLast f r k v id hv
  | circles k => exact s.circles_writesLast f r k v hv
  | circle k id => exact s.circle_writesLast f r k v id hv
  | members k id => exact s.members_writesLast f r k v id hv
  | _ => exact .of_looks (s.handle_reads f r v counted (by simp)).looks.asks

theorem respond_writesLast (counted : Option Metrics.Registry) :
    WritesLast (Call.CreatesFresh f) (·.response.status = 200) (s.respond counted f r) := by
  unfold respond
  split
  · trivial
  · split
    · trivial
    · refine (reply_writesLast (s.handle_writesLast f _ _ counted _)).bind_done fun _ ↦
        ⟨_, rfl, fun h ↦ ?_⟩
      split <;> exact h

theorem exchange_writesLast (counted : Option Metrics.Registry) (newId : String) :
    WritesLast (Call.CreatesFresh f) (·.response.status = 200) (s.exchange counted f newId r) :=
  (s.respond_writesLast f _ counted).bind_done fun _ ↦ ⟨_, rfl, id⟩

theorem exchange_ownerFits (counted : Option Metrics.Registry) (newId : String) :
    (s.exchange counted f newId r).Asks Call.OwnerFits :=
  (s.exchange_writesLast f r counted newId).asks (fun _ ↦ Call.ownerFits_of_not_isWrite)
    Call.CreatesFresh.ownerFits

end Service

end Roster.Api
