import Roster.Proofs.Api.Guard
import Roster.Proofs.Store.Visiting

namespace Roster

def Store.Call.SeeksUser : Call → Prop
  | .getUser _ | .userNamed _ => True
  | _ => False

namespace Api

open Store (Call Table Tables)
open Http (Headers Request Response)

theorem Resource.isAdministered_of_segments {name : String} {segments : List String}
    {resource : Resource} (hname : name ∈ ["users", "groups", "teams"])
    (h : ofSegments? (name :: segments) = some resource) : resource.isAdministered = true := by
  unfold ofSegments? at h
  split at h <;> first
    | (next heq => cases heq; simp at hname; done)
    | (simp only [Option.map_eq_some_iff, Option.ite_none_left_eq_some, Option.some.injEq] at h
       grind [isAdministered])
    | grind [isAdministered]

def Visit.Under (x : Visit) (names : List String) : Prop :=
  ∃ name ∈ names, x.request.uri.path = "/" ++ name ∨
    ∃ rest, x.request.uri.path = "/" ++ name ++ "/" ++ rest

theorem Visit.Under.split {x : Visit} {names : List String} (h : x.Under names)
    (hplain : ∀ name ∈ names, ∀ c ∈ name.toList, (c == '/') = false) :
    ∃ name ∈ names, ∃ segments,
      Text.splitAll (· == '/') x.request.uri.path.toList = [] :: name.toList :: segments := by
  obtain ⟨name, hname, hpath⟩ := h
  refine ⟨name, hname, ?_⟩
  rw [Text.splitAll_eq_splitOnP]
  rcases hpath with hpath | ⟨rest, hpath⟩
  · have hlist : x.request.uri.path.toList = '/' :: name.toList := by
      rw [hpath, String.toList_append]
      rfl
    rw [hlist, List.splitOnP_cons_eq_if_modifyHead,
      List.splitOnP_eq_singleton (hplain name hname)]
    exact ⟨[], rfl⟩
  · have hlist : x.request.uri.path.toList = '/' :: (name.toList ++ '/' :: rest.toList) := by
      simp only [hpath, String.toList_append, List.append_assoc]
      rfl
    rw [hlist, List.splitOnP_cons_eq_if_modifyHead,
      List.splitOnP_append_cons_of_forall_mem (hplain name hname) '/' rfl]
    exact ⟨_, rfl⟩

theorem Visit.Addresses.ofSegments?_eq {x : Visit} {resource : Resource} {verb : Verb}
    (hx : x.Addresses resource verb) {names : List String} (hunder : x.Under names)
    (hplain : ∀ name ∈ names, ∀ c ∈ name.toList, (c == '/') = false) :
    ∃ name ∈ names, ∃ segments, Resource.ofSegments? (name :: segments) = some resource := by
  obtain ⟨name, hname, segments, hsplit⟩ := hunder.split hplain
  have h := hx.path
  rw [Resource.ofPath?, hsplit] at h
  simp only [List.map_cons, String.ofList_toList] at h
  exact ⟨name, hname, _, h⟩

theorem Visit.Addresses.isAdministered {x : Visit} {resource : Resource} {verb : Verb}
    (hx : x.Addresses resource verb) (hunder : x.Under ["users", "groups", "teams"]) :
    resource.isAdministered = true := by
  obtain ⟨name, hname, segments, h⟩ := hx.ofSegments?_eq hunder (by simp)
  exact Resource.isAdministered_of_segments hname h

theorem Credentials.ofValue_refused {value : String} {n : Notification}
    (h : ofValue value = .error n) : ∃ message, n = unauthorized message := by
  unfold ofValue at h
  split at h
  · split at h <;> cases h
    exact ⟨_, rfl⟩
  · split at h
    · next encoded _ =>
      cases hbasic : ofBasic? encoded with
      | none =>
        rw [hbasic] at h
        cases h
        exact ⟨_, rfl⟩
      | some c =>
        rw [hbasic] at h
        cases h
    · cases h
      exact ⟨_, rfl⟩

theorem Credentials.ofHeaders_refused {headers : Headers} {n : Notification}
    (h : ofHeaders headers = .error n) :
    (∃ message, n = unauthorized message) ∨
      n = ⟨"Invalid Authorization header encoding", 400, none⟩ ∧
        ∃ field, headers.get? "authorization" = some field ∧ field.text? = none := by
  unfold ofHeaders at h
  split at h
  · cases h
    exact .inl ⟨_, rfl⟩
  · next field hfield =>
    split at h
    · next htext =>
      cases h
      exact .inr ⟨rfl, field, hfield, htext⟩
    · exact .inl (ofValue_refused h)

namespace Service

variable (s : Service) {x : Visit} {resource : Resource} {verb : Verb} {t t' : Tables}
variable {now : Timestamp} {r r' : Request} {response : Response}

theorem principal_refused (h : (perform (s.principal now r) t).1 = .error response) :
    (∃ message, response = (Credentials.unauthorized message).response) ∨
      response = Notification.response ⟨"Invalid Authorization header encoding", 400, none⟩ ∧
        ∃ field, r.headers.get? "authorization" = some field ∧ field.text? = none := by
  unfold principal at h
  split at h
  · next n hn =>
    cases h
    rcases Credentials.ofHeaders_refused hn with ⟨message, rfl⟩ | ⟨rfl, hfield⟩
    · exact .inl ⟨message, rfl⟩
    · exact .inr ⟨rfl, hfield⟩
  · left
    unfold principalOfToken at h
    split at h
    · next e _ =>
      cases h
      cases e <;> exact ⟨_, rfl⟩
    · split at h
      · cases h
        exact ⟨_, rfl⟩
      · next id _ =>
        rcases perform_bearer_cases id t with ⟨u, -, -, hok⟩ | ⟨-, message, herror⟩
        · cases hok.symm.trans h
        · cases herror.symm.trans h
          exact ⟨message, rfl⟩
  · left
    rw [perform_ofErrand, Accounts.perform_authenticate] at h
    cases hfound : (t.users.values.find? (·.username == _)).filter _ with
    | none =>
      rw [hfound] at h
      cases h
      exact ⟨_, rfl⟩
    | some u =>
      rw [hfound] at h
      cases h

/-- Whoever is not an admin is kept out: unknown, or known and not allowed in. -/
theorem admin_refused (ht : t.Integrity)
    (hnone : ∀ u, Identifies s now r.headers t u → u.admin = false) :
    ∃ refusal, perform (s.admin now r) t = (.error refusal, t) ∧
      (refusal.status = 401 ∨
        refusal.status = 403 ∧ (∃ u, Identifies s now r.headers t u) ∨
        refusal.status = 400 ∧
          ∃ field, r.headers.get? "authorization" = some field ∧ field.text? = none) := by
  rw [admin, (s.principal_reads r now).perform_then]
  cases hprincipal : (perform (s.principal now r) t).1 with
  | error refusal =>
    refine ⟨refusal, rfl, ?_⟩
    rcases s.principal_refused hprincipal with ⟨message, rfl⟩ | ⟨rfl, hfield⟩
    · exact .inl rfl
    · exact .inr (.inr ⟨rfl, hfield⟩)
  | ok u =>
    have hid := s.perform_principal_ok ht hprincipal
    refine ⟨Notification.response ⟨"Only admins can access this resource", 403, none⟩, ?_,
      .inr (.inl ⟨rfl, u, hid⟩)⟩
    simp only [hnone u hid, Bool.false_eq_true, if_false]
    rfl

theorem admin_eq {s s' : Service} (hsecret : s'.signer.secret = s.signer.secret)
    (hverify : s'.hasher.verify = s.hasher.verify)
    (hheader : r'.headers.get? "authorization" = r.headers.get? "authorization") :
    s'.admin now r' = s.admin now r := by
  have hcredentials : Credentials.ofHeaders r'.headers = Credentials.ofHeaders r.headers :=
    Credentials.ofHeaders_congr hheader
  have htoken : s'.signer.verify = s.signer.verify := by
    funext token now
    unfold Signer.verify Signer.open? Signer.signature
    rw [hsecret]
  have hauthenticate : Accounts.authenticate s'.hasher = Accounts.authenticate s.hasher := by
    funext username password
    simp only [Accounts.authenticate, hverify]
  simp only [admin, principal, principalOfToken, hcredentials, htoken, hauthenticate]

/-- Visiting the users in another order, and changing all else, makes no difference to the gate. -/
theorem admin_congr (ht : t.Integrity) (h : t.users.Shuffled t'.users) :
    perform (s.admin now r) t' = ((perform (s.admin now r) t).1, t') := by
  refine Prod.ext ?_ ((s.admin_reads r now).perform_reads t')
  have hputs : Puts Call.SeeksUser (s.admin now r) :=
    s.admin_puts r (fun _ ↦ trivial) (fun _ ↦ trivial) now
  refine (hputs.asks.run_congr (R := fun t t' ↦ t.users.Sound (·.id.text) User.get ∧
    t.users.Shuffled t'.users) (fun c t t' hc hsame ↦ ?_) ⟨ht.users_sound, h⟩).1
  have ⟨hsound, hshuffled⟩ := hsame
  cases c with
  | getUser id => exact ⟨congrArg Except.ok (hshuffled.get?_eq hsound.keys_nodup), hsame⟩
  | userNamed username =>
    refine ⟨congrArg Except.ok (hshuffled.find?_eq fun u hu v hv huname hvname ↦ ?_), hsame⟩
    exact hsound.eq_of_get_eq hu hv .username ((eq_of_beq huname).trans (eq_of_beq hvname).symm)
  | _ => exact hc.elim

/-- A visit whose credentials are not those of an admin is turned away at the gate. So is every visit
at the same time with the same credentials that asks for anything under `/users`, `/groups` or
`/teams`, and with the same answer: whatever it asks for and sends, and whatever circles and
memberships are stored, which stay as they are. -/
theorem answers_at_gate (ht : t.Integrity)
    (hnone : ∀ u, Identifies s x.fresh.now x.request.headers t u → u.admin = false) :
    ∃ refusal : Response,
      perform (s.admin x.fresh.now x.identified) t = (.error refusal, t) ∧
      (refusal.status = 401 ∨
        refusal.status = 403 ∧ (∃ u, Identifies s x.fresh.now x.request.headers t u) ∨
        refusal.status = 400 ∧ ∃ field,
          x.request.headers.get? "authorization" = some field ∧ field.text? = none) ∧
      ∀ (s' : Service) (x' : Visit) (resource : Resource) (verb : Verb) (t' : Tables),
        s'.signer.secret = s.signer.secret → s'.hasher.verify = s.hasher.verify →
        x'.Addresses resource verb → x'.Under ["users", "groups", "teams"] →
        x'.fresh.now = x.fresh.now →
        x'.request.headers.get? "authorization" = x.request.headers.get? "authorization" →
        t.users.Shuffled t'.users →
          (s'.answer x' t').1.response =
            (if x'.request.method.name = "HEAD" then refusal.head else refusal) ∧
          (s'.answer x' t').2 = t' := by
  have hheaders (x : Visit) : x.identified.headers.get? "authorization" =
      x.request.headers.get? "authorization" := get?_identify x.newId x.request.headers
  obtain ⟨refusal, hrefusal, hstatus⟩ := s.admin_refused (r := x.request) ht hnone
  have hgate : s.admin x.fresh.now x.identified = s.admin x.fresh.now x.request :=
    admin_eq rfl rfl (hheaders x)
  refine ⟨refusal, hgate ▸ hrefusal, hstatus, ?_⟩
  intro s' x' resource verb t' hsecret hverify hx hunder hnow hheader hshuffled
  obtain ⟨next, hnext⟩ := s'.handler_administered x' verb (hx.isAdministered hunder)
  have hgate' : s'.admin x'.fresh.now x'.identified = s.admin x.fresh.now x.request := by
    rw [hnow]
    exact admin_eq hsecret hverify ((hheaders x').trans hheader)
  have hperform : perform (s'.handler x' resource verb) t' = (.error refusal, t') := by
    rw [hnext, hgate', perform_bind, s.admin_congr ht hshuffled, hrefusal]
  obtain ⟨hresponse, htables⟩ := s'.answer_of_addresses hx t'
  rw [hresponse, htables, hperform]
  exact ⟨rfl, rfl⟩

theorem answers_at_gate_of_hidden_circle :
    let user : User := .new ⟨"u", by decide⟩ ⟨0, 0⟩ "ada" "ada@example.org" "secret"
    let circle : Circle := .new ⟨"g", by decide⟩ ⟨0, 0⟩ "Hidden"
    let t := Tables.empty.after [.createUser user]
    let t' := t.after [.createCircle .group circle none]
    let s : Service := ⟨⟨.ok, (· == ·)⟩, ⟨[], ⟨0, 0⟩⟩⟩
    let x (method : String) : Visit := ⟨⟨⟨method⟩, ⟨"/groups/hidden", none⟩,
      [⟨"authorization", Bytes.ofText "Basic YWRhOnNlY3JldA=="⟩], []⟩,
      ⟨⟨0, 0⟩, ⟨"v", by decide⟩, ⟨"h", by decide⟩, []⟩, "1", none⟩
    (s.answer (x "GET") t).1.response.status = 403 ∧
      (t'.findCircle .group "hidden").isSome = true ∧
      (s.answer (x "DELETE") t').1.response = (s.answer (x "GET") t).1.response := by
  intro user circle t t' s x
  have ht : t.Reachable := ⟨[.createUser user], by simp [Call.OwnerFits], rfl⟩
  have hnone (u : User) (hu : Identifies s ⟨0, 0⟩ (x "GET").request.headers t u) :
      u.admin = false := by
    have hmem : u ∈ t.users.values := Table.mem_values_of_get? hu.stored
    have hvalues : t.users.values = [user] := rfl
    rw [hvalues, List.mem_singleton] at hmem
    rw [hmem]
    rfl
  obtain ⟨refusal, -, -, hall⟩ := s.answers_at_gate (x := x "GET") ht.integrity hnone
  have hunder (method : String) : (x method).Under ["users", "groups", "teams"] :=
    ⟨"groups", by simp, .inr ⟨"hidden", rfl⟩⟩
  have hget := hall s (x "GET") (.circle .group "hidden") .get t rfl rfl
    ⟨by decide, by decide⟩ (hunder _) rfl rfl (.refl _)
  have hdelete := hall s (x "DELETE") (.circle .group "hidden") .delete t' rfl rfl
    ⟨by decide, by decide⟩ (hunder _) rfl rfl (.refl _)
  refine ⟨by decide +kernel, by decide +kernel, ?_⟩
  exact hdelete.1.trans hget.1.symm

end Service

end Api

end Roster
