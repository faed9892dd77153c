import Roster.Proofs.Api.AdminGate

namespace Roster

open Store (Tables)
open Http (Request Response)

variable {α β : Type}

def Errand.settle (e : Errand α) : Errand Unit :=
  e >>= fun _ ↦ pure ()

def Enrolment.settle (o : Operation α) : Errand Unit :=
  ExceptT.mk (o.bind fun x ↦ .done (x.result.map fun _ ↦ ()))

namespace Api

open Handler (ofErrand take showing telling enrolling)

def Resource.isServed (resource : Resource) : Bool :=
  resource.isGuarded || resource == .login

def Resource.segment? : Resource → Option String
  | .user id | .circlesOfUser _ id | .circle _ id | .members _ id => some id
  | _ => none

def Resource.isCollection : Resource → Bool
  | .users | .circlesOfUser .. | .circles _ | .members .. => true
  | _ => false

def Input.address (r : Request) (resource : Resource) (verb : Verb) : Except Response Unit := do
  resource.segment?.forM fun segment ↦ discard (identifier segment)
  if resource.isCollection && verb == .get then discard (listing r)

def told (t : Tables) (e : Errand Unit) : Except Response Unit :=
  (perform e t).1.mapError faultResponse

namespace Service

variable (s : Service) (f : Fresh) (r : Request)

def asker (x : Visit) (resource : Resource) (t : Tables) : Except Response (Option User) :=
  if resource.isAdministered then (perform (s.admin x.fresh.now x.identified) t).1.map some
  else if resource.isGuarded then (perform (s.principal x.fresh.now x.identified) t).1.map some
  else .ok none

def errand (u : Option User) : Resource → Verb → Except Response (Errand Unit)
  | .login, _ => do
    let b ← Input.body Body.login r
    return (Accounts.authenticate s.hasher b.username b.password).settle
  | .profile, .get => return pure ()
  | .profile, _ => do
    let c ← Input.body Body.profileChange r
    return (Accounts.update s.hasher f (u.elim "" (·.id.text)) c).settle
  | .users, .get => do return (Accounts.list (← Input.listing r)).settle
  | .users, _ => do return (Accounts.create s.hasher f (← Input.body Body.newUser r)).settle
  | .user segment, .get => do return (Accounts.find (← Input.identifier segment)).settle
  | .user segment, .delete => do return (Accounts.delete (← Input.identifier segment)).settle
  | .user segment, _ => do
    let id ← Input.identifier segment
    return (Accounts.update s.hasher f id (← Input.body Body.userChange r)).settle
  | .circles k, .get => do return (Circles.list k (← Input.listing r)).settle
  | .circles k, _ => do
    return (Circles.create k f (← Input.body Body.newCircle r) (u.map (·.id))).settle
  | .circle k segment, .get => do return (Circles.find k (← Input.identifier segment)).settle
  | .circle k segment, .delete => do return (Circles.delete k (← Input.identifier segment)).settle
  | .circle k segment, _ => do
    let id ← Input.identifier segment
    return (Circles.update k f id (← Input.body Body.circleChange r)).settle
  | .members k segment, verb => do
    let id ← Input.identifier segment
    match verb with
    | .get => return (Enrolment.membersOf k id (← Input.listing r)).settle
    | .post => do
      let b ← Input.body Body.memberOfCircle r
      return Enrolment.settle (Enrolment.attach k f.now b.reference id b.permission)
    | .put => do
      let b ← Input.body Body.memberOfCircle r
      return Enrolment.settle (Enrolment.permit k f.now b.reference id b.permission)
    | .delete => do
      let b ← Input.body Body.memberOfCircle r
      return Enrolment.settle (Enrolment.drop k b.reference id)
  | .circlesOfUser k segment, verb => do
    let id ← Input.identifier segment
    match verb with
    | .get => return (Enrolment.circlesOf k id (← Input.listing r)).settle
    | .post => do
      let b ← Input.body Body.circleOfUser r
      return Enrolment.settle (Enrolment.attach k f.now id b.reference b.permission)
    | .put => do
      let b ← Input.body Body.circleOfUser r
      return Enrolment.settle (Enrolment.permit k f.now id b.reference b.permission)
    | .delete => do
      let b ← Input.body Body.circleOfUser r
      return Enrolment.settle (Enrolment.drop k id b.reference)
  | _, _ => return pure ()

/-- What is said in the end, unless it is success. -/
def verdict (x : Visit) (resource : Resource) (verb : Verb) (t : Tables) : Except Response Unit := do
  let u ← s.asker x resource t
  let e ← s.errand x.fresh x.identified u resource verb
  told t e

end Service

def EndsAs (t : Tables) (h : Handler Reply) (verdict : Except Response Unit) : Prop :=
  match verdict with
  | .ok _ => (outcome (perform h t).1).status = 200
  | .error response => outcome (perform h t).1 = response

namespace EndsAs

variable {t : Tables} {reply : Reply} {e : Errand α} {next : α → Handler Reply}

theorem pure (h : reply.response.status = 200) :
    EndsAs t (Pure.pure reply) (told t (Pure.pure ())) := h

theorem showing (view : α → Json) : EndsAs t (Handler.showing e view) (told t e.settle) := by
  unfold EndsAs Handler.showing Errand.settle
  simp only [told, perform_bind, perform_ofErrand]
  rcases perform e t with ⟨x | a, t'⟩ <;> rfl

theorem telling (message : String) :
    EndsAs t (Handler.telling e message) (told t e.settle) := by
  unfold EndsAs Handler.telling Errand.settle
  simp only [told, perform_bind, perform_ofErrand]
  rcases perform e t with ⟨x | a, t'⟩ <;> rfl

theorem enrolling (o : Enrolment.Operation α) (message : String) :
    EndsAs t (Handler.enrolling o message) (told t (Enrolment.settle o)) := by
  unfold EndsAs Handler.enrolling Enrolment.settle
  simp only [told, perform, ExceptT.run_mk, Dialogue.run_bind]
  generalize Dialogue.run (I := Store.interface) Tables.answer o t = ended
  obtain ⟨⟨x | a, attempt⟩, t'⟩ := ended <;> rfl

theorem taking {i : Except Response α} {E : α → Except Response (Errand Unit)}
    (h : ∀ a, EndsAs t (next a) (E a >>= told t)) :
    EndsAs t (take i >>= next) ((i >>= E) >>= told t) := by
  cases i with
  | error response => rfl
  | ok a => exact h a

theorem asking {g : Handler User} {P : User → Prop} (hg : Puts Reads g P)
    {next : User → Handler Reply} {v : User → Except Response Unit}
    (h : ∀ u, EndsAs t (next u) (v u)) :
    EndsAs t (g >>= next) ((perform g t).1 >>= v) := by
  unfold EndsAs
  rw [hg.perform_then]
  cases (perform g t).1 with
  | error response => rfl
  | ok u => exact h u

end EndsAs

theorem Input.body_refused {shape : Json.Shape α} {r : Request} {response : Response}
    (h : body shape r = .error response) : ∃ message, response = badBody message := by
  unfold body at h
  split at h
  · cases h
    exact ⟨_, rfl⟩
  · split at h
    · cases h
      exact ⟨_, rfl⟩
    · cases hdecoded : Json.decodeText shape.decode r.body with
      | error m =>
        rw [hdecoded] at h
        cases h
        exact ⟨_, rfl⟩
      | ok a =>
        rw [hdecoded] at h
        cases h

/-- Reading stops where the address cannot be read, and only a body can be refused after it. -/
structure ReadsOn (address : Except Response Unit) (e : Except Response α) : Prop where
  stops : ∀ response, address = .error response → e = .error response
  refused : address = .ok () → ∀ response, e = .error response →
    ∃ message, response = Input.badBody message

namespace ReadsOn

variable {address : Except Response Unit} {r : Request}

theorem pure (a : α) : ReadsOn (.ok ()) (Pure.pure a) := ⟨nofun, nofun⟩

theorem body {shape : Json.Shape β} {E : β → α} :
    ReadsOn (.ok ()) (do return E (← Input.body shape r)) := by
  refine ⟨nofun, fun _ response h ↦ ?_⟩
  cases hb : Input.body shape r with
  | error e =>
    rw [hb] at h
    cases h
    exact Input.body_refused hb
  | ok b =>
    rw [hb] at h
    cases h

theorem last {i : Except Response β} {E : β → α} :
    ReadsOn (discard i) (do return E (← i)) := by
  cases i with
  | error response =>
    refine ⟨?_, nofun⟩
    rintro _ ⟨⟩
    rfl
  | ok b => exact ⟨nofun, nofun⟩

theorem taking {i : Except Response β} {E : β → Except Response α} (h : ∀ b, ReadsOn address (E b)) :
    ReadsOn (discard i >>= fun _ ↦ address) (i >>= E) := by
  cases i with
  | error response =>
    refine ⟨?_, nofun⟩
    rintro _ ⟨⟩
    rfl
  | ok b => exact h b

end ReadsOn

namespace Service

variable {s : Service} {x : Visit} {resource : Resource} {t : Tables} {response : Response}

theorem admitting {verb : Verb} {next : User → Handler Reply}
    (hresource : resource.isAdministered = true)
    (h : ∀ u, EndsAs t (next u) (s.errand x.fresh x.identified (some u) resource verb >>= told t)) :
    EndsAs t (s.admin x.fresh.now x.identified >>= next) (s.verdict x resource verb t) := by
  have hverdict : s.verdict x resource verb t =
      (perform (s.admin x.fresh.now x.identified) t).1 >>= fun u ↦
        s.errand x.fresh x.identified (some u) resource verb >>= told t := by
    rw [verdict, asker, if_pos hresource]
    cases (perform (s.admin x.fresh.now x.identified) t).1 <;> rfl
  rw [hverdict]
  exact .asking (s.admin_reads x.identified x.fresh.now) h

theorem recognizing {verb : Verb} {next : User → Handler Reply}
    (hresource : resource.isAdministered = false ∧ resource.isGuarded = true)
    (h : ∀ u, EndsAs t (next u) (s.errand x.fresh x.identified (some u) resource verb >>= told t)) :
    EndsAs t (s.principal x.fresh.now x.identified >>= next) (s.verdict x resource verb t) := by
  have hverdict : s.verdict x resource verb t =
      (perform (s.principal x.fresh.now x.identified) t).1 >>= fun u ↦
        s.errand x.fresh x.identified (some u) resource verb >>= told t := by
    rw [verdict, asker, hresource.1, hresource.2, if_neg Bool.false_ne_true, if_pos rfl]
    cases (perform (s.principal x.fresh.now x.identified) t).1 <;> rfl
  rw [hverdict]
  exact .asking (s.principal_reads x.identified x.fresh.now) h

theorem handler_endsAs (hresource : resource.isServed = true) (verb : Verb) :
    EndsAs t (s.handler x resource verb) (s.verdict x resource verb t) := by
  unfold handler
  cases resource with
  | users =>
    cases verb with
    | get => exact admitting rfl fun u ↦ .taking fun l ↦ .showing _
    | _ => exact admitting rfl fun u ↦ .taking fun b ↦ .showing _
  | user segment =>
    cases verb with
    | get => exact admitting rfl fun u ↦ .taking fun id ↦ .showing _
    | delete => exact admitting rfl fun u ↦ .taking fun id ↦ .telling _
    | _ => exact admitting rfl fun u ↦ .taking fun id ↦ .taking fun c ↦ .showing _
  | circles k =>
    cases verb with
    | get => exact admitting rfl fun u ↦ .taking fun l ↦ .showing _
    | _ => exact admitting rfl fun u ↦ .taking fun b ↦ .showing _
  | circle k segment =>
    cases verb with
    | get => exact admitting rfl fun u ↦ .taking fun id ↦ .showing _
    | delete => exact admitting rfl fun u ↦ .taking fun id ↦ .telling _
    | _ => exact admitting rfl fun u ↦ .taking fun id ↦ .taking fun c ↦ .showing _
  | members k segment =>
    cases verb with
    | get => exact admitting rfl fun u ↦ .taking fun id ↦ .taking fun l ↦ .showing _
    | _ => exact admitting rfl fun u ↦ .taking fun id ↦ .taking fun b ↦ .enrolling _ _
  | circlesOfUser k segment =>
    cases verb with
    | get => exact admitting rfl fun u ↦ .taking fun id ↦ .taking fun l ↦ .showing _
    | _ => exact admitting rfl fun u ↦ .taking fun id ↦ .taking fun b ↦ .enrolling _ _
  | login =>
    have hhandler : s.handle x.fresh x.identified x.counted .login verb =
        take (Input.body Body.login x.identified) >>= fun b ↦
          showing (Accounts.authenticate s.hasher b.username b.password) fun u ↦
            (s.signer.issueSession u.id.text x.fresh.now).toJson := rfl
    rw [hhandler]
    exact .taking fun b ↦ .showing _
  | refresh => exact recognizing ⟨rfl, rfl⟩ fun u ↦ .pure rfl
  | verification => exact recognizing ⟨rfl, rfl⟩ fun u ↦ .pure rfl
  | personalToken => exact recognizing ⟨rfl, rfl⟩ fun u ↦ .pure rfl
  | profile =>
    cases verb with
    | get => exact recognizing ⟨rfl, rfl⟩ fun u ↦ .pure rfl
    | _ => exact recognizing ⟨rfl, rfl⟩ fun u ↦ .taking fun c ↦ .showing _
  | _ => cases hresource

theorem errand_readsOn (f : Fresh) (r : Request) (u : Option User) (resource : Resource)
    (verb : Verb) : ReadsOn (Input.address r resource verb) (s.errand f r u resource verb) := by
  cases resource with
  | login => exact .body
  | profile =>
    cases verb with
    | get => exact .pure _
    | _ => exact .body
  | users =>
    cases verb with
    | get => exact .last
    | _ => exact .body
  | circles k =>
    cases verb with
    | get => exact .last
    | _ => exact .body
  | user segment =>
    cases verb with
    | get => exact .taking fun id ↦ .pure _
    | delete => exact .taking fun id ↦ .pure _
    | _ => exact .taking fun id ↦ .body
  | circle k segment =>
    cases verb with
    | get => exact .taking fun id ↦ .pure _
    | delete => exact .taking fun id ↦ .pure _
    | _ => exact .taking fun id ↦ .body
  | members k segment =>
    cases verb with
    | get => exact .taking fun id ↦ .last
    | _ => exact .taking fun id ↦ .body
  | circlesOfUser k segment =>
    cases verb with
    | get => exact .taking fun id ↦ .last
    | _ => exact .taking fun id ↦ .body
  | _ => exact .pure _

end Service

end Api

end Roster
