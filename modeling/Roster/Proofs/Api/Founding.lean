import Roster.Proofs.Api.Verdict
import Roster.Proofs.Store.Founding

namespace Roster

theorem Store.Server.converse_bind {α β : Type} (d : Dialogue Store.interface α)
    (f : α → Dialogue Store.interface β) :
    converse (d.bind f) = (converse d).bind fun a ↦ converse (f a) :=
  Dialogue.relay_bind (I := Store.interface) answer d f

theorem Store.Server.value_converse {α : Type} {P : Store.Call → Prop} {Q : α → Prop}
    {d : Dialogue Store.interface α} (hd : d.Asks P Q)
    (replies : ℕ → Except Sql.Refusal Sql.Answer) : Q (Sql.hear replies (converse d)).2 :=
  Sql.hear_value (hd.relay answer) replies

namespace Api

open Handler (ofErrand take showing)
open Http (Request Response)
open Sql (Answer CarriedOut Refusal hear)
open Store (Call Tables)
open Store.Server (converse converse_bind)

variable {α β : Type}

theorem faultResponse_status (f : Fault) : (faultResponse f).status ≠ 200 := by
  cases f <;> exact Nat.ne_of_beq_eq_false rfl

theorem Input.body_error_status {shape : Json.Shape α} {r : Request} {response : Response}
    (h : body shape r = .error response) : response.status ≠ 200 := by
  obtain ⟨message, rfl⟩ := body_refused h
  exact Nat.ne_of_beq_eq_false rfl

theorem showing_bind (e : Errand α) (f : α → Errand β) (view : β → Json) :
    showing (e >>= f) view = ofErrand e >>= fun a ↦ showing (f a) view := by
  have hbind : ofErrand (e >>= f) = ofErrand e >>= fun a ↦ ofErrand (f a) := by
    refine (Dialogue.bind_assoc e.run _ _).trans ((Dialogue.bind_assoc e.run _ _).trans ?_).symm
    refine congrArg e.run.bind (funext fun r ↦ ?_)
    cases r <;> rfl
  rw [showing, hbind, bind_assoc]
  rfl

/-- Whatever the store answers, a handler comes to a value that satisfies `Q`, or to a response that
does not report success. -/
def Settles (h : Handler α) (Q : α → Prop := fun _ ↦ True) : Prop :=
  h.run.Asks (fun _ ↦ True) fun
    | .ok a => Q a
    | .error response => response.status ≠ 200

namespace Settles

variable {Q : α → Prop} {R : β → Prop} {h : Handler α}

theorem pure {a : α} (ha : Q a) : Settles (pure a : Handler α) Q := ha

theorem throw {response : Response} (hstatus : response.status ≠ 200) :
    Settles (throw response : Handler α) Q := hstatus

theorem bind {next : α → Handler β} (hh : Settles h Q) (hnext : ∀ a, Q a → Settles (next a) R) :
    Settles (h >>= next) R :=
  Dialogue.Asks.bind hh fun
    | .ok a => hnext a
    | .error _ => id

theorem ofErrand {P : Call → Prop} {e : Errand α} (he : Puts P e Q) : Settles (ofErrand e) Q :=
  (he.asks.mono (fun _ _ ↦ True.intro) fun _ ↦ id).bind fun
    | .ok _ => id
    | .error f => fun _ ↦ faultResponse_status f

theorem take {e : Except Response α}
    (he : ∀ response, e = .error response → response.status ≠ 200) :
    Settles (take e) := by
  cases e with
  | ok a => trivial
  | error response => exact he response rfl

end Settles

namespace Service

variable (s : Service)

theorem refuse_settles (message : String) : Settles (refuse message : Handler α) :=
  .throw (Nat.ne_of_beq_eq_false rfl)

theorem bearer_settles (id : UserId) : Settles (bearer id) := by
  refine .bind (Q := fun _ ↦ True) ((Dialogue.Asks.trivial _).bind ?_) fun u _ ↦ ?_
  · rintro (f | u) -
    · dsimp only
      split
      · exact Nat.ne_of_beq_eq_false rfl
      · exact faultResponse_status f
    · trivial
  · split
    · exact .pure trivial
    · exact refuse_settles _

theorem principal_settles (now : Timestamp) (r : Request) : Settles (s.principal now r) := by
  unfold principal
  split
  · next n hn =>
    refine .throw ?_
    rcases Credentials.ofHeaders_refused hn with ⟨message, rfl⟩ | ⟨rfl, -⟩ <;>
      exact Nat.ne_of_beq_eq_false rfl
  · unfold principalOfToken
    split
    · exact .throw (faultResponse_status _)
    · split
      · exact refuse_settles _
      · exact bearer_settles _
  · exact .ofErrand (Accounts.authenticate_puts (P := Reads) _ _ rfl)

theorem admin_settles (now : Timestamp) (r : Request) :
    Settles (s.admin now r) (·.admin = true) := by
  refine .bind (s.principal_settles now r) fun u _ ↦ ?_
  split
  · next hadmin => exact .pure hadmin
  · exact .throw (Nat.ne_of_beq_eq_false rfl)

variable {s} {x : Visit} {k : Kind} {t : Tables}

def circleDraft (x : Visit) (k : Kind) : Handler Circle := do
  let b ← take (Input.body Body.newCircle x.identified)
  ofErrand (Circles.draft k x.fresh b)

def founding (x : Visit) (k : Kind) (u : User) (c : Circle) : Errand Circle :=
  Errand.ask (.createCircle k c (some (.new u.id c.id .owner x.fresh.now)))

theorem handler_founding : s.handler x (.circles k) .post = (do
    let u ← s.admin x.fresh.now x.identified
    let c ← circleDraft x k
    showing (founding x k u c) Circle.toJson) := by
  have hhandler : s.handler x (.circles k) .post = (do
    let u ← s.admin x.fresh.now x.identified
    let b ← take (Input.body Body.newCircle x.identified)
    showing (Circles.create k x.fresh b (some u.id)) Circle.toJson) := rfl
  simp only [hhandler, circleDraft, Circles.create, showing_bind, bind_assoc]
  rfl

theorem circleDraft_settles : Settles (circleDraft x k) (·.id = x.fresh.circleId) :=
  .bind (.take fun _ h ↦ Input.body_error_status h) fun b _ ↦
    .ofErrand (Circles.draft_reads k x.fresh b)

theorem circleDraft_reads : Puts Reads (circleDraft x k) :=
  .bind (take_puts _) fun b _ ↦ (ofErrand_puts (Circles.draft_reads k x.fresh b)).mono
    (fun _ ↦ id) fun _ _ ↦ trivial

theorem perform_settled {h : Handler α} {Q : α → Prop} (hreads : Puts Reads h)
    (hsettles : Settles h Q) {next : α → Handler Reply}
    (hstatus : (outcome (perform (h >>= next) t).1).status = 200) :
    ∃ a, (perform h t).1 = .ok a ∧ Q a ∧ perform (h >>= next) t = perform (next a) t := by
  have hvalue : match (perform h t).1 with
      | .ok a => Q a
      | .error response => response.status ≠ 200 := hsettles.run_value t
  rw [hreads.perform_then] at hstatus ⊢
  cases hv : (perform h t).1 with
  | error response =>
    rw [hv] at hstatus hvalue
    exact absurd hstatus hvalue
  | ok a =>
    rw [hv] at hvalue
    exact ⟨a, rfl, hvalue, rfl⟩

/-- As in memory, so with a server: what is heard goes on where it has stopped. -/
theorem hear_settled {h : Handler α} {Q : α → Prop} (hsettles : Settles h Q)
    {replies : ℕ → Except Refusal Answer} {next : α → Handler Reply}
    (hstatus : (outcome (hear replies (converse (h >>= next).run)).2).status = 200) :
    ∃ a rest, (hear replies (converse h.run)).2 = .ok a ∧ Q a ∧
      hear replies (converse (h >>= next).run) =
        ((hear replies (converse h.run)).1 ++
          (hear rest (converse (next a).run)).1,
          (hear rest (converse (next a).run)).2) := by
  have hvalue := Store.Server.value_converse hsettles replies
  have hbind : converse (h >>= next).run =
      (converse h.run).bind fun r ↦
        converse (ExceptT.bindCont next r) :=
    converse_bind h.run _
  obtain ⟨rest, hheard⟩ := Sql.hear_bind replies (converse h.run) fun r ↦
    converse (ExceptT.bindCont next r)
  rw [hbind, hheard] at hstatus
  rw [hbind, hheard]
  cases hv : (hear replies (converse h.run)).2 with
  | error response =>
    rw [hv] at hstatus hvalue
    exact absurd hstatus hvalue
  | ok a =>
    rw [hv] at hvalue
    exact ⟨a, rest, rfl, hvalue, rfl⟩

/-- In memory, a visit that founds a circle has put it in the store with its founder. -/
theorem answer_founding (hx : x.Addresses (.circles k) .post)
    (hstatus : (s.answer x t).1.response.status = 200) :
    ∃ u c, (perform (s.admin x.fresh.now x.identified) t).1 = .ok u ∧ c.id = x.fresh.circleId ∧
      (t.of k).circles.get? c.id.text = none ∧
      (s.answer x t).2 = t.withCircle k c [.new u.id c.id .owner x.fresh.now] := by
  rw [s.answer_status hx] at hstatus
  rw [(s.answer_of_addresses hx t).2]
  rw [handler_founding] at hstatus ⊢
  obtain ⟨u, hu, -, heq⟩ := perform_settled (s.admin_reads _ _) (s.admin_settles _ _) hstatus
  rw [heq] at hstatus ⊢
  obtain ⟨c, -, hc, heq⟩ := perform_settled circleDraft_reads circleDraft_settles hstatus
  rw [heq] at hstatus ⊢
  have hfounding : perform (founding x k u c) t =
    t.createCircle k c (some (.new u.id c.id .owner x.fresh.now)) := rfl
  rcases t.createCircle_whole k c (some (.new u.id c.id .owner x.fresh.now)) with
    ⟨f, herror⟩ | ⟨hnew, hok⟩
  · rw [showing, perform_bind, perform_ofErrand, hfounding, herror] at hstatus
    exact absurd hstatus (faultResponse_status f)
  · refine ⟨u, c, hu, hc, hnew, ?_⟩
    rw [perform_showing_tables, hfounding, hok]
    rfl

/-- With a server, a visit sends what its handler sends, and reports what that comes to. -/
theorem hear_of_addresses {resource : Resource} {verb : Verb} (hx : x.Addresses resource verb)
    (replies : ℕ → Except Refusal Answer) :
    let heard := hear replies (converse (s.exchange x.counted x.fresh x.newId x.request))
    let handled := hear replies (converse (s.handler x resource verb).run)
    heard.1 = handled.1 ∧ heard.2.response.status = (outcome handled.2).status := by
  obtain ⟨g, hexchange, hresponse⟩ := s.exchange_of_addresses hx
  have hconverse : converse (s.exchange x.counted x.fresh x.newId x.request) =
      (converse (s.handler x resource verb).run).bind fun r ↦ .done (g r) := by
    rw [hexchange]
    exact converse_bind _ _
  dsimp only
  rw [hconverse, Sql.hear_bind_done, hresponse]
  refine ⟨rfl, ?_⟩
  split <;> rfl

theorem founding_carriedOut {u : User} {c : Circle} {replies : ℕ → Except Refusal Answer}
    (hstatus : (outcome (hear replies
      (converse (showing (founding x k u c) Circle.toJson).run)).2).status = 200) :
    CarriedOut (Sql.Circles.creationStatements k c (some (.new u.id c.id .owner x.fresh.now)))
      (hear replies (converse (showing (founding x k u c) Circle.toJson).run)).1 := by
  have hrun : converse (showing (founding x k u c) Circle.toJson).run =
      (Store.Server.answer (.createCircle k c (some (.new u.id c.id .owner x.fresh.now)))).bind
        fun r ↦ .done ((r.mapError faultResponse).map fun c ↦ ⟨.json 200 c.toJson, none⟩) := by
    refine congrArg (Store.Server.answer _).bind (funext fun r ↦ ?_)
    cases r <;> rfl
  rw [hrun, Sql.hear_bind_done] at hstatus ⊢
  cases hstored : (hear replies (Store.Server.answer
      (.createCircle k c (some (.new u.id c.id .owner x.fresh.now))))).2 with
  | ok c' => exact ((Store.Server.founds ..).carriedOut c' hstored).2
  | error f =>
    rw [hstored] at hstatus
    exact absurd hstatus (faultResponse_status f)

/-- With a server, a visit that founds a circle has had it stored with its founder. -/
theorem hear_founding (hx : x.Addresses (.circles k) .post) {replies : ℕ → Except Refusal Answer}
    (hstatus : (hear replies (converse
      (s.exchange x.counted x.fresh x.newId x.request))).2.response.status = 200) :
    ∃ u c before sent,
      (hear replies (converse (s.admin x.fresh.now x.identified).run)).2 = .ok u ∧
      u.admin = true ∧ c.id = x.fresh.circleId ∧
      (hear replies (converse
        (s.exchange x.counted x.fresh x.newId x.request))).1 = before ++ sent ∧
      CarriedOut (Sql.Circles.creationStatements k c
        (some (.new u.id c.id .owner x.fresh.now))) sent := by
  obtain ⟨hsent, hhandled⟩ := s.hear_of_addresses hx replies
  rw [hhandled, handler_founding] at hstatus
  rw [hsent, handler_founding]
  obtain ⟨u, rest, hu, hadmin, heq⟩ := hear_settled (s.admin_settles _ _) hstatus
  rw [heq] at hstatus ⊢
  obtain ⟨c, rest', -, hc, heq⟩ := hear_settled circleDraft_settles hstatus
  rw [heq] at hstatus ⊢
  exact ⟨u, c, _, _, hu, hadmin, hc, (List.append_assoc ..).symm, founding_carriedOut hstatus⟩

end Service

/-- A circle and its owner are stored together or not at all. In memory, both are added and nothing
else changes, or nothing changes. A server has carried out one transaction with both, or it is told
to roll back, and its refusal is reported by the constraint it names. So an admin who has posted a
circle with success is its one member. -/
theorem circle_stored_with_owner :
    (∀ (t : Tables) (k : Kind) (c : Circle) (owner : Option Membership),
      (∃ f, Tables.answer (.createCircle k c owner) t = (.error f, t)) ∨
        (t.of k).circles.get? c.id.text = none ∧
          Tables.answer (.createCircle k c owner) t = (.ok c, t.withCircle k c owner.toList)) ∧
    (∀ (k : Kind) (c : Circle) (owner : Option Membership) (replies : ℕ → Except Refusal Answer),
      Store.Server.Founds k c owner
        (hear replies (Store.Server.answer (.createCircle k c owner)))) ∧
    (∀ (s : Service) (x : Visit) (k : Kind) (t : Tables), t.Reachable →
      x.Addresses (.circles k) .post → (s.answer x t).1.response.status = 200 →
      ∃ u c, Identifies s x.fresh.now x.request.headers t u ∧ u.admin = true ∧
        c.id = x.fresh.circleId ∧ (t.of k).circles.get? c.id.text = none ∧
        (s.answer x t).2 = t.withCircle k c [.new u.id c.id .owner x.fresh.now] ∧
        ((s.answer x t).2.of k).circles.get? c.id.text = some c ∧
        (s.answer x t).2.membersOfCircle k c.id = [⟨.new u.id c.id .owner x.fresh.now, u, c⟩]) ∧
    (∀ (s : Service) (x : Visit) (k : Kind) (replies : ℕ → Except Refusal Answer),
      x.Addresses (.circles k) .post →
      (hear replies (converse
        (s.exchange x.counted x.fresh x.newId x.request))).2.response.status = 200 →
      ∃ u c before sent,
        (hear replies (converse (s.admin x.fresh.now x.identified).run)).2 = .ok u ∧
        u.admin = true ∧ c.id = x.fresh.circleId ∧
        (hear replies (converse (s.exchange x.counted x.fresh x.newId x.request))).1 =
          before ++ sent ∧
        CarriedOut (Sql.Circles.creationStatements k c
          (some (.new u.id c.id .owner x.fresh.now))) sent) := by
  refine ⟨Tables.createCircle_whole, Store.Server.founds, ?_,
    fun s x k replies hx hstatus ↦ s.hear_founding hx hstatus⟩
  intro s x k t ht hx hstatus
  obtain ⟨u, c, hu, hc, hnew, hstored⟩ := s.answer_founding hx hstatus
  obtain ⟨hidentifies, hadmin⟩ := s.perform_admin_ok ht.integrity hu
  have hheaders : Credentials.ofHeaders x.request.headers =
      Credentials.ofHeaders x.identified.headers :=
    (Credentials.ofHeaders_identify x.newId x.request.headers).symm
  refine ⟨u, c, hidentifies.congr hheaders, hadmin, hc, hnew, hstored, ?_, ?_⟩
  · rw [hstored]
    exact Tables.get?_withCircle hnew _
  · rw [hstored]
    exact ht.integrity.membersOfCircle_withCircle hnew rfl hidentifies.stored

theorem circle_stored_with_owner_of_posted_group :
    let user : User := { User.new ⟨"u", by decide⟩ ⟨0, 0⟩ "ada" "ada@example.org" "secret" with
      admin := true }
    let t := Tables.empty.after [.createUser user]
    let s : Service := ⟨⟨.ok, (· == ·)⟩, ⟨[], ⟨0, 0⟩⟩⟩
    let id : CircleId := ⟨"g", by decide⟩
    let x : Visit := ⟨⟨⟨"POST"⟩, ⟨"/groups", none⟩,
      [⟨"authorization", Bytes.ofText "Basic YWRhOnNlY3JldA=="⟩,
        ⟨"content-type", Bytes.ofText "application/json"⟩],
      Bytes.ofText "\x7b\"name\":\"Core\"\x7d"⟩, ⟨⟨1, 0⟩, ⟨"v", by decide⟩, id, []⟩, "1", none⟩
    t.Reachable ∧ x.Addresses (.circles .group) .post ∧
      (s.answer x t).1.response.status = 200 ∧
      ∃ u c, u.admin = true ∧
        (s.answer x t).2.membersOfCircle .group id = [⟨.new u.id id .owner ⟨1, 0⟩, u, c⟩] := by
  intro user t s id x
  have ht : t.Reachable := ⟨[.createUser user], by simp [Call.OwnerFits], rfl⟩
  have hx : x.Addresses (.circles .group) .post := ⟨by decide, by decide⟩
  have hstatus : (s.answer x t).1.response.status = 200 := by decide +kernel
  obtain ⟨u, c, -, hadmin, hid, -, -, -, hmembers⟩ :=
    circle_stored_with_owner.2.2.1 s x .group t ht hx hstatus
  rw [hid] at hmembers
  exact ⟨ht, hx, hstatus, u, c, hadmin, hmembers⟩

end Api

end Roster
