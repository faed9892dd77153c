import Roster.Proofs.Api.Guard
import Roster.Proofs.Api.Schemes
import Roster.Proofs.Token.Lifetime

namespace Roster

open Store (Tables)
open Http (Headers Request Response)

def Http.Response.token? (r : Response) : Option String :=
  match r.body with
  | .json (.object entries) => match entries.lookup "token" with
    | some (.text token) => some token
    | _ => none
  | _ => none

namespace Api

open Handler (ofErrand take)

variable {α : Type} {t : Tables} {u : User} {token : String}

theorem token?_notification (n : Notification) : n.response.token? = none := by
  obtain ⟨message, status, errors⟩ := n
  cases errors <;> rfl

theorem token?_of_ofErrand_error {e : Errand α} {response : Response}
    (h : (perform (ofErrand e) t).1 = .error response) : response.token? = none := by
  obtain ⟨f, rfl⟩ := perform_ofErrand_error h
  exact token?_notification _

theorem token?_of_body_error {shape : Json.Shape α} {r : Request} {response : Response}
    (h : Input.body shape r = .error response) : response.token? = none := by
  unfold Input.body at h
  split at h
  · cases h
    exact token?_notification _
  · split at h
    · cases h
      exact token?_notification _
    · cases hd : Json.decodeText shape.decode r.body with
      | error m =>
        rw [hd] at h
        cases h
        exact token?_notification _
      | ok a =>
        rw [hd] at h
        cases h

/-- A token comes from the end of a handler: a step that fails on the way tells of none. -/
theorem token_of_bind {e : Handler α} {next : α → Handler Reply} (he : Puts Reads e)
    (herror : ∀ response, (perform e t).1 = .error response → response.token? = none)
    (h : (outcome (perform (e >>= next) t).1).token? = some token) :
    ∃ a, (perform e t).1 = .ok a ∧ (outcome (perform (next a) t).1).token? = some token := by
  rw [he.perform_then] at h
  cases ha : (perform e t).1 with
  | error response =>
    rw [ha] at h
    cases (herror response ha).symm.trans h
  | ok a =>
    rw [ha] at h
    exact ⟨a, rfl, h⟩

namespace Service

variable (s : Service) {x : Visit} {resource : Resource} {verb : Verb}

theorem token?_of_principal_error {now : Timestamp} {r : Request} {response : Response}
    (h : (perform (s.principal now r) t).1 = .error response) : response.token? = none := by
  unfold principal at h
  split at h
  · cases h
    exact token?_notification _
  · unfold principalOfToken at h
    split at h
    · cases h
      exact token?_notification _
    · split at h
      · cases h
        exact token?_notification _
      · next id _ =>
        rcases perform_bearer_cases id t with ⟨u, -, -, hok⟩ | ⟨-, message, herror⟩
        · cases hok.symm.trans h
        · cases herror.symm.trans h
          exact token?_notification _
  · exact token?_of_ofErrand_error h

theorem handler_of_token (hpath : Resource.ofPath? x.request.uri.path = some resource)
    (h : (s.answer x t).1.response.token? = some token) :
    ∃ verb, (outcome (perform (s.handler x resource verb) t).1).token? = some token := by
  cases hverb : (Verb.ofMethod? x.request.method).filter resource.verbs.contains with
  | none =>
    rw [(s.answer_eq x t).1, respond] at h
    simp only [Visit.identified, hpath, hverb] at h
    cases h
  | some verb =>
    rw [(s.answer_of_addresses ⟨hpath, hverb⟩ t).1] at h
    split at h
    · cases h
    · exact ⟨verb, h⟩

/-- A visit issues a token to a user with some claims: a session to whoever logs in or has the right
to another one, and personal access to whoever asks for it. -/
inductive Issues (x : Visit) (t : Tables) (u : User) : Claims → Prop
  | login {b : Body.Login} (hpath : x.request.uri.path = "/auth/login")
    (hbody : Input.body Body.login x.identified = .ok b) (hname : u.username = b.username)
    (hverify : s.hasher.verify b.password u.passwordHash = true)
    (hstored : t.users.get? u.id.text = some u) (hactive : u.active = true) :
    Issues x t u ⟨.session, u.id.text, x.fresh.now.seconds,
      Signer.expiry s.signer.sessionLife x.fresh.now⟩
  | refresh (hpath : x.request.uri.path = "/auth/refresh")
    (hid : Identifies s x.fresh.now x.request.headers t u) :
    Issues x t u ⟨.session, u.id.text, x.fresh.now.seconds,
      Signer.expiry s.signer.sessionLife x.fresh.now⟩
  | personal (hpath : x.request.uri.path = "/profile/token")
    (hid : Identifies s x.fresh.now x.request.headers t u) :
    Issues x t u ⟨.user, u.id.text, x.fresh.now.seconds, none⟩

theorem issues_of_token (ht : t.Integrity)
    (hpath : x.request.uri.path ∈ ["/auth/login", "/auth/refresh", "/profile/token"])
    (h : (s.answer x t).1.response.token? = some token) :
    ∃ u c, s.Issues x t u c ∧ token = s.signer.sign c := by
  have hguarded {next : User → Handler Reply}
      (h : (outcome (perform (s.principal x.fresh.now x.identified >>= next) t).1).token? =
        some token) : ∃ u, Identifies s x.fresh.now x.request.headers t u ∧
          (outcome (perform (next u) t).1).token? = some token := by
    obtain ⟨u, hu, h⟩ := token_of_bind (s.principal_reads x.identified x.fresh.now)
      (fun _ ↦ s.token?_of_principal_error) h
    have hid := s.perform_principal_ok ht hu
    exact ⟨u, hid.congr (Credentials.ofHeaders_identify x.newId x.request.headers).symm, h⟩
  simp only [List.mem_cons, List.not_mem_nil, or_false] at hpath
  rcases hpath with hpath | hpath | hpath
  · have hresource : Resource.ofPath? x.request.uri.path = some .login := by
      rw [hpath]
      decide
    obtain ⟨verb, h⟩ := s.handler_of_token hresource h
    obtain ⟨b, hbody, h⟩ := token_of_bind (take_puts (Input.body Body.login x.identified))
      (fun _ ↦ token?_of_body_error) h
    obtain ⟨u, hu, h⟩ := token_of_bind
      (ofErrand_puts (Accounts.authenticate_puts s.hasher b.password rfl))
      (fun _ ↦ token?_of_ofErrand_error) h
    obtain ⟨hname, hverify, hstored, hactive⟩ := perform_authenticate_ok ht hu
    exact ⟨u, _, .login hpath hbody hname hverify hstored hactive, Option.some.inj h.symm⟩
  · have hresource : Resource.ofPath? x.request.uri.path = some .refresh := by
      rw [hpath]
      decide
    obtain ⟨verb, h⟩ := s.handler_of_token hresource h
    obtain ⟨u, hid, h⟩ := hguarded h
    exact ⟨u, _, .refresh hpath hid, Option.some.inj h.symm⟩
  · have hresource : Resource.ofPath? x.request.uri.path = some .personalToken := by
      rw [hpath]
      decide
    obtain ⟨verb, h⟩ := s.handler_of_token hresource h
    obtain ⟨u, hid, h⟩ := hguarded h
    exact ⟨u, _, .personal hpath hid, Option.some.inj h.symm⟩

variable {s} {c : Claims}

theorem Issues.subject (h : s.Issues x t u c) : c.subject = u.id.text := by
  cases h <;> rfl

theorem Issues.stored (h : s.Issues x t u c) : t.users.get? u.id.text = some u := by
  cases h with
  | login hpath hbody hname hverify hstored hactive => exact hstored
  | refresh hpath hid => exact hid.stored
  | personal hpath hid => exact hid.stored

theorem Issues.sealed (h : s.Issues x t u c) (hnow : x.fresh.now.Dated) :
    s.signer.Sealed (s.signer.sign c) c := by
  have hfits : c.Fits := by
    cases h with
    | personal hpath hid => exact Signer.issue_fits hnow ⟨0, 0⟩
    | _ => exact Signer.issue_fits hnow s.signer.sessionLife
  exact Signer.open?_eq_some_iff.mp (s.signer.open?_sign hfits)

/-- A token that a run issues comes back from its field, and wherever a visit has to say who asks,
it stands for the user to whom it was issued, if current and if that user is stored and active. Once
the user is gone it stands for nobody. -/
theorem issued_token_lets_in (s : Service) (settings : Settings) (start : Fresh)
    (before later : List Visit) {x : Visit} {token : String}
    (hdrawn : (drawn start (before ++ x :: later)).Nodup) (hdated : x.fresh.now.Dated)
    (hpath : x.request.uri.path ∈ ["/auth/login", "/auth/refresh", "/profile/token"])
    (hissued :
      (s.answer x (s.after (s.start settings start) before)).1.response.token? = some token) :
    ∃ u c, s.Issues x (s.after (s.start settings start) before) u c ∧
      (∀ headers : Headers, headers.get? "authorization" =
          some ⟨"authorization", Bytes.ofText ("Bearer " ++ token)⟩ →
        Credentials.ofHeaders headers = .ok (.bearer token)) ∧
      ∀ between rest, later = between ++ rest →
        let t := s.after (s.start settings start) (before ++ x :: between)
        ∀ (y : Visit) (resource : Resource) (verb : Verb), y.Addresses resource verb →
          resource.isGuarded = true →
          Credentials.ofHeaders y.request.headers = .ok (.bearer token) →
            s.LetsIn y resource verb t (fun v ↦ c.Current y.fresh.now ∧
              v ∈ t.users.values ∧ v.id = u.id ∧ v.active = true) ∧
            ((∀ v ∈ t.users.values, v.id ≠ u.id) →
              s.LetsIn y resource verb (s.after t rest) fun _ ↦ False) := by
  have hreachable (visits : List Visit) : (s.after (s.start settings start) visits).Integrity :=
    (s.reachable_after (s.reachable_start settings start) visits).integrity
  obtain ⟨u, c, hissues, rfl⟩ := s.issues_of_token (hreachable before) hpath hissued
  refine ⟨u, c, hissues, fun headers hfield ↦ ?_, ?_⟩
  · exact Credentials.ofHeaders_bearer hfield (s.signer.sign_ne_empty c) (s.signer.sign_visible c)
  rintro between rest rfl t y resource verb hy hguarded hbears
  have hlets (t : Tables) := s.letsIn_of_sealed hy hguarded hbears (hissues.sealed hdated)
    hissues.subject t
  have ht : t.Integrity := hreachable (before ++ x :: between)
  refine ⟨(hlets t).congr fun v ↦ ?_, fun hgone ↦ (hlets _).congr fun v ↦ ?_⟩
  · rw [ht.get?_user_iff, and_assoc]
  · have habsent : t.users.get? u.id.text = none := by
      rw [Option.eq_none_iff_forall_ne_some]
      intro v hv
      obtain ⟨hmem, hid⟩ := ht.get?_user_iff.mp hv
      exact hgone v hmem hid
    have hrest : ∀ z ∈ rest, z.fresh.userId ≠ u.id := by
      intro z hz
      have hlater : z ∈ x :: (between ++ rest) :=
        List.mem_cons_of_mem x (List.mem_append_right between hz)
      exact s.not_drawn_again hdrawn hissues.stored z hlater
    rw [s.absent_after hrest habsent]
    exact iff_of_false (fun h ↦ nomatch h.2.1) id

theorem issued_token_lets_in_after_renaming :
    let s : Service := ⟨⟨.ok, (· == ·)⟩, ⟨[115], ⟨3600, 0⟩⟩⟩
    let fresh (now : Int) (id : UserId) : Fresh := ⟨⟨now, 0⟩, id, ⟨"g", by decide⟩, []⟩
    let credentials : Http.Header :=
      ⟨"authorization", Bytes.ofText "Basic YWRtaW46YWRtaW4tcGFzc3dvcmQ="⟩
    let json : Http.Header := ⟨"content-type", Bytes.ofText "application/json"⟩
    let login : Visit := ⟨⟨⟨"POST"⟩, ⟨"/auth/login", none⟩, [json],
      Bytes.ofText "\x7b\"username\":\"admin\",\"password\":\"admin-password\"\x7d"⟩,
      fresh 1 ⟨"b", by decide⟩, "1", none⟩
    let rename : Visit := ⟨⟨⟨"PUT"⟩, ⟨"/profile/self", none⟩, [credentials, json],
      Bytes.ofText "\x7b\"username\":\"ada\"\x7d"⟩, fresh 2 ⟨"c", by decide⟩, "2", none⟩
    let token := (s.signer.issueSession "a" ⟨1, 0⟩).token
    let check : Visit := ⟨⟨⟨"GET"⟩, ⟨"/auth/verify", none⟩,
      [⟨"authorization", Bytes.ofText ("Bearer " ++ token)⟩], []⟩,
      fresh 3 ⟨"d", by decide⟩, "3", none⟩
    let start := fresh 0 ⟨"a", by decide⟩
    let t := s.start {} start
    (drawn start [login, rename]).Nodup ∧ (s.answer login t).1.response.token? = some token ∧
      ∃ u c, s.Issues login t u c ∧
        s.LetsIn check .verification .get (s.after t [login, rename]) fun v ↦
          c.Current check.fresh.now ∧ v ∈ (s.after t [login, rename]).users.values ∧
            v.id = u.id ∧ v.active = true := by
  intro s fresh credentials json login rename token check start t
  have hdrawn : (drawn start [login, rename]).Nodup := by decide
  have hdated : login.fresh.now.Dated := by
    constructor <;> decide
  have hissued : (s.answer login t).1.response.token? = some token := by decide +kernel
  obtain ⟨u, c, hissues, hfield, hlets⟩ :=
    s.issued_token_lets_in {} start [] [rename] hdrawn hdated
      (List.mem_cons_self ..) hissued
  have hcheck : check.Addresses .verification .get := ⟨by decide, by decide⟩
  have hbears := hfield check.request.headers rfl
  obtain ⟨hlets, -⟩ := hlets [rename] [] rfl check .verification .get hcheck rfl hbears
  exact ⟨hdrawn, hissued, u, c, hissues, hlets⟩

end Service

end Api

end Roster
