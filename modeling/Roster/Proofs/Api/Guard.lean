import Roster.Proofs.Api.Access
import Roster.Proofs.Api.Routing
import Roster.Proofs.Api.Runs
import Roster.Proofs.Token.Soundness

namespace Roster

open Store (Tables)
open Http (Request Response)

namespace Api

variable {t : Tables} {u : User}

def Resource.isGuarded : Resource → Bool
  | .health | .ready | .live | .metrics | .login => false
  | _ => true

def Resource.isAdministered : Resource → Bool
  | .users | .user _ | .circlesOfUser .. | .circles _ | .circle .. | .members .. => true
  | _ => false

def outcome : Except Response Reply → Response
  | .ok reply => reply.response
  | .error response => response

namespace Visit

variable (x : Visit)

def identified : Request :=
  { x.request with headers := RequestLog.identify x.newId x.request.headers }

/-- What a visit comes to: a resource, and a verb that it allows. -/
structure Addresses (resource : Resource) (verb : Verb) : Prop where
  path : Resource.ofPath? x.request.uri.path = some resource
  verb : (Verb.ofMethod? x.request.method).filter resource.verbs.contains = some verb

end Visit

namespace Service

variable (s : Service) {x : Visit} {resource : Resource} {verb : Verb}

def handler (x : Visit) (resource : Resource) (verb : Verb) : Handler Reply :=
  s.handle x.fresh x.identified x.counted resource verb

theorem answer_eq (x : Visit) (t : Tables) :
    (s.answer x t).1.response =
        ((s.respond x.counted x.fresh x.identified).run Tables.answer t).1.response ∧
      (s.answer x t).2 = ((s.respond x.counted x.fresh x.identified).run Tables.answer t).2 := by
  rw [answer, exchange, Dialogue.run_bind]
  exact ⟨rfl, rfl⟩

theorem exchange_of_addresses (hx : x.Addresses resource verb) :
    ∃ g : Except Response Reply → Exchange,
      s.exchange x.counted x.fresh x.newId x.request =
        (s.handler x resource verb).run.bind (fun r ↦ .done (g r)) ∧
      ∀ r, (g r).response =
        (if x.request.method.name = "HEAD" then (outcome r).head else outcome r) := by
  obtain ⟨hpath, hverb⟩ := hx
  have hrespond : s.respond x.counted x.fresh x.identified =
      (s.handler x resource verb).reply.bind fun reply ↦ .done
        (if x.request.method.name = "HEAD" then { reply with response := reply.response.head }
          else reply) := by
    rw [respond]
    simp only [Visit.identified, hpath, hverb]
    rfl
  have hexchange : s.exchange x.counted x.fresh x.newId x.request =
      (s.respond x.counted x.fresh x.identified).bind _ := rfl
  rw [hrespond, Handler.reply, Dialogue.bind_assoc, Dialogue.bind_assoc] at hexchange
  rw [hexchange]
  refine Dialogue.exists_bind_done (R := fun r (e : Exchange) ↦ e.response =
    (if x.request.method.name = "HEAD" then (outcome r).head else outcome r)) (fun r ↦ ?_) _
  cases r <;> exact ⟨_, rfl, by dsimp only; split <;> rfl⟩

/-- A request for the head alone gets what a request for the whole gets, without the body. -/
theorem answer_of_addresses (hx : x.Addresses resource verb) (t : Tables) :
    (s.answer x t).1.response = (if x.request.method.name = "HEAD" then
        (outcome (perform (s.handler x resource verb) t).1).head
      else outcome (perform (s.handler x resource verb) t).1) ∧
    (s.answer x t).2 = (perform (s.handler x resource verb) t).2 := by
  obtain ⟨g, hexchange, hresponse⟩ := s.exchange_of_addresses hx
  rw [answer, hexchange, Dialogue.run_bind]
  exact ⟨hresponse _, rfl⟩

theorem answer_status (hx : x.Addresses resource verb) (t : Tables) :
    (s.answer x t).1.response.status =
      (outcome (perform (s.handler x resource verb) t).1).status := by
  rw [(s.answer_of_addresses hx t).1]
  split <;> rfl

/-- The handler of an administered resource begins by finding out whether an admin asks. -/
theorem handler_administered (x : Visit) (verb : Verb) (h : resource.isAdministered = true) :
    ∃ next : User → Handler Reply,
      s.handler x resource verb = s.admin x.fresh.now x.identified >>= next := by
  unfold handler
  cases resource with
  | users => cases verb <;> exact ⟨_, rfl⟩
  | user id => cases verb <;> exact ⟨_, rfl⟩
  | circlesOfUser k id => cases verb <;> exact ⟨_, rfl⟩
  | circles k => cases verb <;> exact ⟨_, rfl⟩
  | circle k id => cases verb <;> exact ⟨_, rfl⟩
  | members k id => cases verb <;> exact ⟨_, rfl⟩
  | _ => cases h

theorem handler_guarded (x : Visit) (verb : Verb) (h : resource.isGuarded = true) :
    ∃ next : User → Handler Reply,
      s.handler x resource verb = s.principal x.fresh.now x.identified >>= next := by
  by_cases hadministered : resource.isAdministered = true
  · obtain ⟨next, hnext⟩ := s.handler_administered x verb hadministered
    exact ⟨_, hnext.trans (bind_assoc ..)⟩
  · cases resource with
    | refresh => exact ⟨_, rfl⟩
    | verification => exact ⟨_, rfl⟩
    | personalToken => exact ⟨_, rfl⟩
    | profile => cases verb <;> exact ⟨_, rfl⟩
    | health | ready | live | metrics | login => cases h
    | _ => exact absurd rfl hadministered

/-- The guard of a visit lets in whoever satisfies `P`, and turns the visit away if nobody does. -/
structure LetsIn (x : Visit) (resource : Resource) (verb : Verb) (t : Tables) (P : User → Prop) :
    Prop where
  guarded : ∃ next : User → Handler Reply,
    s.handler x resource verb = s.principal x.fresh.now x.identified >>= next
  admits : ∀ u, (perform (s.principal x.fresh.now x.identified) t).1 = .ok u ↔ P u
  refuses : (∀ u, ¬ P u) → (s.answer x t).1.response.status = 401 ∧ (s.answer x t).2 = t

theorem LetsIn.congr {s : Service} {P P' : User → Prop} (h : s.LetsIn x resource verb t P)
    (hP : ∀ u, P u ↔ P' u) : s.LetsIn x resource verb t P' where
  guarded := h.guarded
  admits u := (h.admits u).trans (hP u)
  refuses hnone := h.refuses fun u hu ↦ hnone u ((hP u).mp hu)

theorem answer_of_refused (hx : x.Addresses resource verb) (h : resource.isGuarded = true)
    {response : Response}
    (hrefused : (perform (s.principal x.fresh.now x.identified) t).1 = .error response) :
    (s.answer x t).1.response.status = response.status ∧ (s.answer x t).2 = t := by
  obtain ⟨next, hnext⟩ := s.handler_guarded x verb h
  have hperform : perform (s.handler x resource verb) t = (.error response, t) := by
    rw [hnext, (s.principal_reads x.identified x.fresh.now).perform_then, hrefused]
  rw [s.answer_status hx, (s.answer_of_addresses hx t).2, hperform]
  exact ⟨rfl, rfl⟩

theorem letsIn_of_ok {P : User → Prop} (h : resource.isGuarded = true)
    (hok : (perform (s.principal x.fresh.now x.identified) t).1 = .ok u) (hu : P u)
    (hunique : ∀ v, P v → v = u) : s.LetsIn x resource verb t P where
  guarded := s.handler_guarded x verb h
  admits v := by
    rw [hok]
    constructor
    · rintro ⟨⟩
      exact hu
    · intro hv
      rw [hunique v hv]
  refuses hnobody := absurd hu (hnobody u)

theorem letsIn_of_error {P : User → Prop} {response : Response} (hx : x.Addresses resource verb)
    (h : resource.isGuarded = true)
    (hrefused : (perform (s.principal x.fresh.now x.identified) t).1 = .error response)
    (hstatus : response.status = 401) (hnobody : ∀ v, ¬ P v) : s.LetsIn x resource verb t P where
  guarded := s.handler_guarded x verb h
  admits v := by
    rw [hrefused]
    exact iff_of_false nofun (hnobody v)
  refuses _ := by
    rw [← hstatus]
    exact s.answer_of_refused hx h hrefused

theorem principal_of_sealed {now : Timestamp} {r : Request} {token : String} {c : Claims}
    {id : UserId} (hbears : Credentials.ofHeaders r.headers = .ok (.bearer token))
    (hsealed : s.signer.Sealed token c) (hsubject : c.subject = id.text) :
    s.principal now r =
      if c.Current now then bearer id else throw (faultResponse .tokenExpired) := by
  rw [principal, hbears]
  dsimp only
  rw [principalOfToken, Signer.verify_of_sealed hsealed]
  by_cases hcurrent : c.Current now
  · rw [if_pos hcurrent, if_pos hcurrent]
    dsimp only
    rw [hsubject, UserId.ofText?_text]
  · rw [if_neg hcurrent, if_neg hcurrent]
    rfl

/-- A token with a sound signature stands for the user with the id that it names. -/
theorem letsIn_of_sealed {token : String} {c : Claims} {id : UserId}
    (hx : x.Addresses resource verb) (h : resource.isGuarded = true)
    (hbears : Credentials.ofHeaders x.request.headers = .ok (.bearer token))
    (hsealed : s.signer.Sealed token c) (hsubject : c.subject = id.text) (t : Tables) :
    s.LetsIn x resource verb t fun u ↦
      c.Current x.fresh.now ∧ t.users.get? id.text = some u ∧ u.active = true := by
  have hheaders : Credentials.ofHeaders x.identified.headers = .ok (.bearer token) :=
    (Credentials.ofHeaders_identify x.newId x.request.headers).trans hbears
  have hprincipal : s.principal x.fresh.now x.identified =
      if c.Current x.fresh.now then bearer id else throw (faultResponse .tokenExpired) :=
    s.principal_of_sealed hheaders hsealed hsubject
  by_cases hcurrent : c.Current x.fresh.now
  · rw [if_pos hcurrent] at hprincipal
    rcases perform_bearer_cases id t with ⟨u, hu, hactive, hok⟩ | ⟨hnone, message, herror⟩
    · refine s.letsIn_of_ok (u := u) h (by rw [hprincipal, hok]) ⟨hcurrent, hu, hactive⟩ ?_
      rintro v ⟨-, hv, -⟩
      exact Option.some.inj (hv.symm.trans hu)
    · refine s.letsIn_of_error hx h (by rw [hprincipal, herror]) rfl ?_
      rintro v ⟨-, hv, hactive⟩
      rw [hnone v hv] at hactive
      cases hactive
  · rw [if_neg hcurrent] at hprincipal
    have hrefused : (perform (s.principal x.fresh.now x.identified) t).1 =
        .error (faultResponse .tokenExpired) := congrArg (fun h ↦ (perform h t).1) hprincipal
    exact s.letsIn_of_error hx h hrefused rfl fun v hv ↦ hcurrent hv.1

end Service

end Api

end Roster
